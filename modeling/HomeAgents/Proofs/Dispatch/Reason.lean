import HomeAgents.Proofs.Dispatch.Conversation
import HomeAgents.Proofs.Dispatch.Offers

/-!
# Why a dispatch stops

The last reply of the last visit decides it, and several reasons may be there at once. They count in
a fixed order: work that is found cancelled, turns that are used up, a hand-over that nobody follows
any more because the work is cancelled, one that would go too deep, one to an agent that is not
there, and at last that there is nothing left to do.
-/

namespace HomeAgents

namespace Dispatch

variable {σ : Type} {env : Environment σ} {agent : Agent} {message : String} {s s' : RunState σ}

namespace Turn

/-- The work is found cancelled while a block of the reply is still to be carried out. -/
def CutShort (t : Turn σ) : Prop :=
  t.closed.cancelled = true ∧ ∃ b rest,
    (Reply.parse t.reply).blocks.filter (fun b => !b.isMalformed) =
      t.deeds.map Deed.block ++ b :: rest

/-- The reply calls a tool. -/
def CallsTool (t : Turn σ) : Prop :=
  (Reply.parse t.reply).toolCalls ≠ []

end Turn

section Blocks

variable {bs : List Block} {p p' : Progress} {ds : List (Deed σ)}

/-- Where blocks are left out, there is one that would have been next. -/
theorem Carries.exists_rest (h : Carries env agent message bs p s ds p' s')
    (hp : p.stopped = false) (hs : p'.stopped = true) :
    ∃ b rest, bs.filter (fun b => !b.isMalformed) = ds.map Deed.block ++ b :: rest := by
  induction h with
  | done =>
    rw [hp] at hs
    cases hs
  | skip tail ih => exact ih hp hs
  | stop hb hc => exact ⟨_, _, List.filter_cons_of_pos (by simp [hb])⟩
  | @deed b rest p p₁ p' s s₁ s' ds hb hc run tail ih =>
    have hstopped := runBlock_stopped env agent message p s b
    rw [run, hp] at hstopped
    obtain ⟨b', rest', hrest⟩ := ih hstopped hs
    refine ⟨b', rest', ?_⟩
    rw [List.filter_cons_of_pos (by simp [hb]), hrest]
    rfl

theorem runBlock_toolCalls (env : Environment σ) (agent : Agent) (message : String) (p : Progress)
    (s : RunState σ) (b : Block) (text : String) :
    (runBlock env agent message p s b).1.toolCalls =
      p.toolCalls + (⟨text, [b]⟩ : Reply).toolCalls.length := by
  cases b with
  | toolCall c | malformed e => rfl
  | command c =>
    by_cases hc : c.action = Builtin.delegateAction
    · simp only [runBlock, hc, ↓reduceIte, requestHandover]
      by_cases hn : agent.config.canNest = true
      · simp only [hn, ↓reduceIte]
        cases p.handover <;> rfl
      · simp only [hn, Bool.false_eq_true, ↓reduceIte]
        rfl
    · simp only [runBlock, hc, ↓reduceIte]
      rfl

/-- In a reply that is carried out to its end every tool call is counted. -/
theorem Carries.toolCalls_eq (h : Carries env agent message bs p s ds p' s')
    (hs : p'.stopped = false) (text : String) :
    p'.toolCalls = p.toolCalls + (⟨text, bs⟩ : Reply).toolCalls.length := by
  induction h with
  | done => rfl
  | skip tail ih => exact ih hs
  | stop hb hc => cases hs
  | @deed b rest p p₁ p' s s₁ s' ds hb hc run tail ih =>
    have hfirst := runBlock_toolCalls env agent message p s b text
    have hsplit : (⟨text, b :: rest⟩ : Reply).toolCalls =
        (⟨text, [b]⟩ : Reply).toolCalls ++ (⟨text, rest⟩ : Reply).toolCalls :=
      List.filterMap_append (l := [b])
    rw [run] at hfirst
    rw [ih hs, hfirst, hsplit, List.length_append, Nat.add_assoc]

end Blocks

section Turns

variable {handover : Option Handover} {t : Turn σ}

theorem Turn.Taken.stopped_iff (h : t.Taken env agent message handover) :
    t.progress.stopped = true ↔ t.CutShort := by
  constructor
  · intro hs
    exact ⟨h.blocks.cancelled_of_stopped rfl hs, h.blocks.exists_rest rfl hs⟩
  · rintro ⟨_, b, rest, hrest⟩
    cases hs : t.progress.stopped with
    | true => rfl
    | false =>
      have hall := h.blocks.blocks_eq hs
      rw [hrest, List.self_eq_append_right] at hall
      cases hall

theorem Turn.Taken.toolCalls_iff (h : t.Taken env agent message handover)
    (hs : t.progress.stopped = false) : t.progress.toolCalls ≠ 0 ↔ t.CallsTool := by
  have hcount := h.blocks.toolCalls_eq hs (Reply.parse t.reply).text
  rw [Nat.zero_add] at hcount
  rw [hcount, Turn.CallsTool, ne_eq, List.length_eq_zero_iff]

/-- In a turn that is carried out to its end every hand-over that is asked for is noticed. -/
theorem Turn.Taken.delegations_eq (h : t.Taken env agent message handover)
    (hs : t.progress.stopped = false) :
    t.delegations = (Reply.parse t.reply).blocks.filterMap Block.delegation? := by
  have hblocks := congrArg (List.filterMap Block.delegation?) (h.blocks.blocks_eq hs)
  rwa [Block.filterMap_formed fun _ => rfl, List.filterMap_map] at hblocks

/-- How the hop of an agent that may go on for `left` more turns ends with its last turn. -/
inductive Closes (left : Nat) (ts : List (Turn σ)) (t : Turn σ) : StopReason → Prop
  | cut (hcut : t.CutShort) : Closes left ts t .cancelled
  | usedUp (hcut : ¬ t.CutShort) (hcalls : t.CallsTool) (hlength : ts.length = left + 1) :
      Closes left ts t .maxTurns
  | replied (hcut : ¬ t.CutShort) (hcalls : ¬ t.CallsTool) : Closes left ts t .textResponse

theorem Closes.again {left : Nat} {ts : List (Turn σ)} {u : Turn σ} {reason : StopReason}
    (h : Closes left ts t reason) : Closes (left + 1) (u :: ts) t reason := by
  cases h with
  | cut hcut => exact .cut hcut
  | usedUp hcut hcalls hlength => exact .usedUp hcut hcalls (congrArg (· + 1) hlength)
  | replied hcut hcalls => exact .replied hcut hcalls

theorem Takes.closes {left turn : Nat} {messages : List Message} {text : String}
    {ts : List (Turn σ)} {out : Except AgentError Hop} {hop : Hop}
    (h : Takes env agent message left turn messages text handover s ts out s')
    (ho : out = .ok hop) :
    ∃ t, ts.getLast? = some t ∧ hop.rawText = t.reply ∧ Closes left ts t hop.stopReason := by
  induction h with
  | failed call => cases ho
  | @stopped _ _ _ t taken hs =>
    obtain rfl := Except.ok.inj ho
    exact ⟨t, rfl, rfl, .cut (taken.stopped_iff.mp hs)⟩
  | @ended _ _ _ t taken hs hc =>
    obtain rfl := Except.ok.inj ho
    have hcut : ¬ t.CutShort := fun h => by simp [taken.stopped_iff.mpr h] at hs
    exact ⟨t, rfl, rfl, .replied hcut fun h => (taken.toolCalls_iff hs).mpr h hc⟩
  | @usedUp _ _ t taken hs hc =>
    obtain rfl := Except.ok.inj ho
    have hcut : ¬ t.CutShort := fun h => by simp [taken.stopped_iff.mpr h] at hs
    exact ⟨t, rfl, rfl, .usedUp hcut ((taken.toolCalls_iff hs).mp hc) rfl⟩
  | @again _ _ _ u ts _ _ taken hs hc rest ih =>
    obtain ⟨t, hlast, hraw, hcloses⟩ := ih ho
    exact ⟨t, by rw [List.getLast?_cons, hlast]; rfl, hraw, hcloses.again⟩

end Turns

section Visits

variable {d : Dispatcher σ} {pad : Scratchpad} {v : Visit σ}

/-- The hand-over that is held at the end of a visit: the first one that its replies ask for, if the
agent may hand over at all. -/
def Visit.held? (v : Visit σ) : Option Handover :=
  if v.agent.config.canNest then
    (v.turns.flatMap fun t =>
      (Reply.parse t.reply).blocks.filterMap Block.delegation?).head?.map fun c =>
        handoverOf c v.chain.message
  else none

theorem Visit.Made.handover_eq {sequel : Sequel} {hop : Hop} (h : v.Made d pad sequel)
    (ho : v.outcome = .ok hop) (hr : hop.stopReason = .textResponse) : hop.handover = v.held? := by
  by_cases hn : v.agent.config.canNest = true
  · have hasked : v.turns.flatMap Turn.delegations = v.turns.flatMap fun t =>
        (Reply.parse t.reply).blocks.filterMap Block.delegation? := by
      refine List.flatMap_congr fun t ht => ?_
      obtain ⟨_, taken⟩ := h.turns.taken_of_mem t ht
      refine taken.delegations_eq ?_
      -- A reply that was cut short would have made the hop count as cancelled.
      cases hs : t.progress.stopped with
      | false => rfl
      | true =>
        obtain ⟨hop', ho', hcancelled⟩ := h.turns.last_of_stopped.2 t ht hs
        obtain rfl := Except.ok.inj (ho.symm.trans ho')
        rw [hr] at hcancelled
        cases hcancelled
    rw [h.turns.handover_eq hn ho hr, hasked, Visit.held?, if_pos hn, Option.none_or]
  · have hp : Permitted v.agent hop.handover := h.turns.permitted (fun hnone => by cases hnone) ho
    rw [Visit.held?, if_neg hn]
    exact Option.not_isSome_iff_eq_none.mp fun hsome => hn (hp hsome)

/-- The depth to which the agent of a visit may hand over. -/
def Visit.limit (d : Dispatcher σ) (v : Visit σ) : Nat :=
  min d.maxDepth v.agent.config.maxTurns

/-- The last one of some actions is a hand-over of an agent that failed. -/
def LastFailed (actions : List Action) (agent : Agent) (asked : Handover) (e : AgentError) : Prop :=
  actions.getLast? = some (handoverAction agent asked.target asked.arguments (.failed e))

theorem lastFailed_record (agent : Agent) (asked : Handover) (e : AgentError) :
    LastFailed
      (s.record env (handoverAction agent asked.target asked.arguments (.failed e))).actions
      agent asked e := by
  simp [LastFailed, RunState.record, RunState.emit, RunState.note]

/-- How a dispatch stops after a visit, its last turn and all that was done, one case for each
way. -/
inductive Halts (d : Dispatcher σ) (v : Visit σ) (t : Turn σ) (actions : List Action) :
    StopReason → Prop
  | cut (hcut : t.CutShort) : Halts d v t actions .cancelled
  | usedUp (hcut : ¬ t.CutShort) (hcalls : t.CallsTool)
      (hlength : v.turns.length = max 1 v.agent.config.maxTurns) : Halts d v t actions .maxTurns
  | overtaken {asked : Handover} (hcalls : ¬ t.CallsTool) (hheld : v.held? = some asked)
      (hcancelled : v.passed.cancelled = true) : Halts d v t actions .cancelled
  | refused {asked : Handover} (hcut : ¬ t.CutShort) (hcalls : ¬ t.CallsTool)
      (hheld : v.held? = some asked) (hopen : v.passed.cancelled = false)
      (hlimit : v.limit d < v.depth + 1)
      (hlast : LastFailed actions v.agent asked (.nestingLimitExceeded (v.depth + 1) (v.limit d))) :
      Halts d v t actions .nestingLimitExceeded
  | unknown {asked : Handover} (hcut : ¬ t.CutShort) (hcalls : ¬ t.CallsTool)
      (hheld : v.held? = some asked) (hopen : v.passed.cancelled = false)
      (hlimit : v.depth + 1 ≤ v.limit d) (htarget : d.router.get? asked.target = none)
      (hlast : LastFailed actions v.agent asked (.unknownAgent asked.target)) :
      Halts d v t actions .textResponse
  | answered (hcut : ¬ t.CutShort) (hcalls : ¬ t.CallsTool) (hheld : v.held? = none) :
      Halts d v t actions .textResponse

/-- A visit with which a dispatch comes to a result stops it in one of these ways. -/
theorem Visit.Made.halts {ending : Ending} (h : v.Made d pad (.over (.ok ending))) :
    ∃ t, v.turns.getLast? = some t ∧ ending.hop.rawText = t.reply ∧ ending.chain = v.chain ∧
      Halts d v t v.passed.actions ending.reason := by
  have hfollows := h.follows
  cases ho : v.outcome with
  | error e =>
    rw [ho] at hfollows
    cases hfollows
  | ok hop =>
    obtain ⟨t, hturn, hraw, hcloses⟩ := h.turns.closes ho
    have hheld := h.handover_eq ho
    have hlength : v.agent.config.maxTurns - 1 + 1 = max 1 v.agent.config.maxTurns := by omega
    rw [ho] at hfollows
    refine ⟨t, hturn, ?_⟩
    generalize hpassed : v.passed = s' at hfollows
    cases hfollows with
    | ended hr =>
      refine ⟨hraw, rfl, ?_⟩
      change Halts d v t _ hop.stopReason
      generalize hreason : hop.stopReason = reason at hcloses hr
      cases hcloses with
      | cut hcut => exact .cut hcut
      | usedUp hcut hcalls hall => exact .usedUp hcut hcalls (hall.trans hlength)
      | replied hcut hcalls =>
        have hnone : hop.handover = none := hr.resolve_left fun hne => hne rfl
        exact .answered hcut hcalls ((hheld hreason).symm.trans hnone)
    | cancelled hr hh hs =>
      rw [hr] at hcloses
      cases hcloses with
      | replied hcut hcalls =>
        exact ⟨hraw, rfl, .overtaken hcalls ((hheld hr).symm.trans hh) (by rw [hpassed, hs])⟩
    | refused hr hh hs hl =>
      have hopen := RunState.not_cancelled_of_look hs
      rw [hr] at hcloses
      cases hcloses with
      | replied hcut hcalls =>
        exact ⟨hraw, rfl, .refused hcut hcalls ((hheld hr).symm.trans hh)
          ((congrArg RunState.cancelled hpassed).trans hopen) hl (lastFailed_record ..)⟩
    | unknown hr hh hs hl hg =>
      have hopen := RunState.not_cancelled_of_look hs
      rw [hr] at hcloses
      cases hcloses with
      | replied hcut hcalls =>
        exact ⟨hraw, rfl, .unknown hcut hcalls ((hheld hr).symm.trans hh)
          ((congrArg RunState.cancelled hpassed).trans hopen) hl hg (lastFailed_record ..)⟩

/-- When a dispatch whose last visit ends with this turn has which reason, and what it recorded last
then. The reasons count in this order, so a hand-over that would go too deep is refused whether or
not its target is there. -/
structure Reasoned (d : Dispatcher σ) (v : Visit σ) (t : Turn σ) (actions : List Action)
    (reason : StopReason) : Prop where
  cancelled_iff : reason = .cancelled ↔
    t.CutShort ∨ ¬ t.CallsTool ∧ v.held?.isSome = true ∧ v.passed.cancelled = true
  maxTurns_iff : reason ≠ .cancelled → (reason = .maxTurns ↔
    t.CallsTool ∧ v.turns.length = max 1 v.agent.config.maxTurns)
  no_calls : reason ≠ .cancelled → reason ≠ .maxTurns → ¬ t.CallsTool
  nestingLimit_iff : reason ≠ .cancelled → reason ≠ .maxTurns → (reason = .nestingLimitExceeded ↔
    v.held?.isSome = true ∧ v.limit d < v.depth + 1)
  refused : reason = .nestingLimitExceeded → ∃ asked, v.held? = some asked ∧
    LastFailed actions v.agent asked (.nestingLimitExceeded (v.depth + 1) (v.limit d))
  textResponse_iff : reason ≠ .cancelled → reason ≠ .maxTurns → reason ≠ .nestingLimitExceeded →
    (reason = .textResponse ↔
      v.held? = none ∨ ∃ asked, v.held? = some asked ∧ d.router.get? asked.target = none)
  unknown : reason = .textResponse → ∀ asked, v.held? = some asked →
    d.router.get? asked.target = none ∧
      LastFailed actions v.agent asked (.unknownAgent asked.target)

theorem Halts.reasoned {t : Turn σ} {actions : List Action} {reason : StopReason}
    (h : Halts d v t actions reason) : Reasoned d v t actions reason := by
  cases h with
  | cut hcut => constructor <;> simp [hcut]
  | usedUp hcut hcalls hlength => constructor <;> simp [hcut, hcalls, hlength]
  | overtaken hcalls hheld hcancelled => constructor <;> simp [hcalls, hheld, hcancelled]
  | refused hcut hcalls hheld hopen hlimit hlast =>
    constructor
    case nestingLimit_iff => exact fun _ _ => iff_of_true rfl ⟨by rw [hheld]; rfl, hlimit⟩
    all_goals simp [hcut, hcalls, hheld, hopen, hlast]
  | unknown hcut hcalls hheld hopen hlimit htarget hlast =>
    constructor
    case nestingLimit_iff =>
      exact fun _ _ => iff_of_false (fun h => by cases h) fun h =>
        absurd hlimit (Nat.not_le.mpr h.2)
    all_goals simp [hcut, hcalls, hheld, hopen, htarget, hlast]
  | answered hcut hcalls hheld => constructor <;> simp [hcut, hcalls, hheld]

/-- A result comes of the last visit, which is as deep as there were visits before it. -/
theorem Tours.exists_last {depth : Nat} {chain : Chain} {vs : List (Visit σ)}
    {out : Except AgentError Ending} (h : Tours d pad depth chain s vs out s') :
    ∃ v, vs.getLast? = some v ∧ v.depth + 1 = depth + vs.length ∧ v.Made d pad (.over out) ∧
      v.passed = s' := by
  induction h with
  | @last v out made => exact ⟨v, rfl, rfl, made, rfl⟩
  | @more w chain vs out s' made rest ih =>
    obtain ⟨v, hlast, hdepth, hmade, hpassed⟩ := ih
    refine ⟨v, by rw [List.getLast?_cons, hlast]; rfl, ?_, hmade, hpassed⟩
    rw [hdepth, List.length_cons]
    omega

theorem Course.exists_last {hint : Option String} {vs : List (Visit σ)}
    {report : Dispatcher.Report σ} {result : AgentResult}
    (h : Course d pad message hint s vs report) (ho : report.outcome = .ok result) :
    ∃ v ending, vs.getLast? = some v ∧ v.depth + 1 = vs.length ∧ v.Made d pad (.over (.ok ending)) ∧
      result = ending.result (ending.finish v.passed) := by
  cases h with
  | unrouted hr => cases ho
  | failed hr tours => cases ho
  | @answered agent vs ending s' hr tours =>
    obtain rfl := Except.ok.inj ho
    obtain ⟨v, hlast, hdepth, hmade, rfl⟩ := tours.exists_last
    exact ⟨v, ending, hlast, hdepth.trans (Nat.zero_add _), hmade, rfl⟩

theorem Ending.actions_finish (e : Ending) (s : RunState σ) : (e.finish s).actions = s.actions := by
  rw [Ending.finish]
  split <;> rfl

end Visits

/-- Every result of a dispatch tells why it stopped, and the last reply of its last agent decides
which reason this is. An agent that was accepted may take a turn at least, so it has used up its
turns exactly if it got as many replies. -/
theorem handle_reasoned (d : Dispatcher σ) (pad : Scratchpad) (message : String)
    (hint : Option String) (world : σ) (cancelled : Bool) (telemetry : Option Telemetry) :
    let report := d.handle pad message hint (.start world cancelled telemetry)
    ∃ vs : List (Visit σ),
      Course d pad message hint (.start world cancelled telemetry) vs report ∧
      report.state.journal.filterMap Entry.reply? = allReplies vs ∧
      ((∀ e ∈ d.router.agents, e.2.Accepted) →
        ∀ v ∈ vs, max 1 v.agent.config.maxTurns = v.agent.config.maxTurns) ∧
      ∀ result, report.outcome = .ok result → ∃ v t,
        vs.getLast? = some v ∧ v.turns.getLast? = some t ∧
        result.agentName = v.agent.name ∧ v.depth + 1 = result.delegationChain.length ∧
        result.rawText = t.reply ∧ Reasoned d v t result.actions result.stopReason := by
  intro report
  obtain ⟨vs, course⟩ := handle_course d pad message hint (.start world cancelled telemetry)
  refine ⟨vs, course, ?_, ?_, ?_⟩
  · rw [← Ledger.replies_state]
    exact course.replies
  · intro haccepted v hv
    have hpos : 0 < v.agent.config.maxTurns :=
      course.agent_of_mem (P := fun a => 0 < a.config.maxTurns)
        (fun e he => (haccepted e he).maxTurns_pos) v hv
    exact Nat.max_eq_right hpos
  · intro result ho
    obtain ⟨v, ending, hlast, hdepth, hmade, hresult⟩ := course.exists_last ho
    obtain ⟨t, hturn, hraw, hchain, hhalts⟩ := hmade.halts
    have hnames := (course.result_eq ho).2
    refine ⟨v, t, hlast, hturn, ?_, ?_, ?_, ?_⟩
    · rw [hresult, Ending.result, hchain]
      rfl
    · rw [hnames, List.length_map, hdepth]
    · rw [hresult]
      exact hraw
    · rw [hresult, Ending.result, Ending.actions_finish]
      exact hhalts.reasoned

end Dispatch

end HomeAgents
