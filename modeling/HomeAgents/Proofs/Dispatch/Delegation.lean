import HomeAgents.Proofs.Dispatch.Execution
import HomeAgents.Proofs.Dispatch.Reason

/-!
# Which hand-over counts

An agent that may not hand over is denied every hand-over it asks for, one action for each. Of any
other agent only the first command counts that asks for one in all replies of the visit, and only if
the visit ends with a reply that calls no tool. The commands behind it leave no action.
-/

namespace HomeAgents

open Dispatch

variable {σ : Type} {env : Environment σ} {agent : Agent} {message : String} {s s' : RunState σ}

namespace Ledger

/-- The actions that were recorded for hand-overs, in order. -/
def handovers (l : Ledger) : List Action :=
  l.actions.filter fun a => a.kind = .delegation

@[simp] theorem handovers_append (l l' : Ledger) :
    (l ++ l').handovers = l.handovers ++ l'.handovers :=
  List.filter_append ..

@[simp] theorem handovers_told (es : List Entry) : (told es).handovers = [] := rfl

theorem handovers_join (ls : List Ledger) : (join ls).handovers = ls.flatMap handovers := by
  induction ls with
  | nil => rfl
  | cons l ls ih => rw [join_cons, handovers_append, ih, List.flatMap_cons]

theorem handovers_settled {a : Action} {calls : List Entry} {cancels : Bool}
    (h : a.kind ≠ .delegation) : (settled a calls cancels).handovers = [] := by
  simp [handovers, settled, h]

end Ledger

namespace Dispatch

/-! ### What a command asks for -/

theorem textParam?_eq_some {c : Command} {name text : String} :
    textParam? c name = some text ↔ Sorted.find? name c.params = some (.string text) := by
  rw [textParam?, Option.bind_eq_some_iff]
  constructor
  · rintro ⟨value, hvalue, htext⟩
    cases value with
    | string s => rw [hvalue, Option.some.inj htext]
    | null | bool | number | array | object => cases htext
  · exact fun h => ⟨_, h, rfl⟩

/-- A command asks for this hand-over when the agent works on a message. It names its target by a
text, or else the target is empty. It passes on a text of its own that is not blank, or else the
message of the agent. -/
structure Asks (c : Command) (message : String) (asked : Handover) : Prop where
  named : ∀ target, Sorted.find? "agent" c.params = some (.string target) → asked.target = target
  unnamed : (∀ target, Sorted.find? "agent" c.params ≠ some (.string target)) → asked.target = ""
  worded : ∀ text, Sorted.find? "message" c.params = some (.string text) →
    Text.isBlankText text = false → asked.message = text
  unworded : (∀ text, Sorted.find? "message" c.params = some (.string text) →
    Text.isBlankText text = true) → asked.message = message
  arguments : asked.arguments = c.params

theorem asks_handoverOf (c : Command) (message : String) :
    Asks c message (handoverOf c message) where
  named target h := by
    change (textParam? c "agent").getD "" = target
    rw [textParam?_eq_some.mpr h]
    rfl
  unnamed h := by
    have hnone : textParam? c "agent" = none :=
      Option.eq_none_iff_forall_ne_some.mpr fun target ht => h target (textParam?_eq_some.mp ht)
    change (textParam? c "agent").getD "" = ""
    rw [hnone]
    rfl
  worded text h hblank := by
    change ((textParam? c "message").filter fun m => !Text.isBlankText m).getD message = text
    rw [textParam?_eq_some.mpr h, Option.filter_some, hblank]
    rfl
  unworded h := by
    change ((textParam? c "message").filter fun m => !Text.isBlankText m).getD message = message
    cases ht : textParam? c "message" with
    | none => rfl
    | some text =>
      rw [Option.filter_some, h text (textParam?_eq_some.mp ht)]
      rfl
  arguments := rfl

/-! ### What hand-overs leave behind -/

/-- An agent is denied the hand-over that a command asks for. -/
def Denied (agent : Agent) (message : String) (c : Command) (a : Action) : Prop :=
  ∃ asked, Asks c message asked ∧ a = handoverAction agent asked.target asked.arguments
    (.failed (.capabilityDenied agent.name .delegation asked.target))

/-- The actions that commands leave which ask for a hand-over: one for each that is denied. -/
def denials (agent : Agent) (cs : List Command) : List Action :=
  cs.flatMap fun c =>
    (if agent.config.canNest then .blank else deniedHandover agent c : Ledger).handovers

theorem denials_append (agent : Agent) (cs cs' : List Command) :
    denials agent (cs ++ cs') = denials agent cs ++ denials agent cs' :=
  List.flatMap_append

theorem denials_of_canNest (hn : agent.config.canNest = true) (cs : List Command) :
    denials agent cs = [] := by
  simp only [denials, hn, ↓reduceIte]
  exact List.flatMap_eq_nil_iff.mpr fun _ _ => rfl

theorem denied_denials (hn : agent.config.canNest = false) (message : String)
    (cs : List Command) : List.Forall₂ (Denied agent message) cs (denials agent cs) := by
  simp only [denials, hn, Bool.false_eq_true, ↓reduceIte]
  induction cs with
  | nil => exact .nil
  | cons c cs ih => exact .cons ⟨_, asks_handoverOf c message, rfl⟩ ih

theorem Deed.Done.handovers {x : Deed σ} (h : x.Done env agent message) :
    x.ledger.handovers = denials agent x.block.delegation?.toList := by
  cases he : x.block.errand? with
  | some e =>
    obtain ⟨service, outcome, calls, cancels, ms, hset, hl⟩ := h.settles he
    have hnone : x.block.delegation? = none := by
      cases hb : x.block with
      | toolCall c | malformed e => rfl
      | command c =>
        rw [hb] at he
        by_cases hc : c.action = Builtin.delegateAction
        · simp [Block.errand?, hc] at he
        · simp [Block.delegation?, hc]
    rw [hl, hnone, Ledger.handovers_settled hset.kind_ne]
    rfl
  | none =>
    obtain ⟨c, hb, hc, hl⟩ := h.handover he
    have hsome : x.block.delegation? = some c := by simp [hb, Block.delegation?, hc]
    rw [hl, hsome, Option.toList_some, denials, List.flatMap_singleton]

section Turns

variable {handover : Option Handover} {t : Turn σ}

theorem Turn.Taken.handovers (h : t.Taken env agent message handover) :
    (t.ledger env agent).handovers = denials agent t.delegations := by
  have hdeeds : (Ledger.join (t.deeds.map Deed.ledger)).handovers =
      t.deeds.flatMap fun x => denials agent x.block.delegation?.toList := by
    rw [Ledger.handovers_join, List.flatMap_map]
    exact List.flatMap_congr fun x hx => (h.blocks.done_of_mem x hx).handovers
  have hheading : (t.heading env agent).handovers = [] := rfl
  have hparting : (t.parting agent).handovers = [] := rfl
  rw [Turn.ledger, Ledger.handovers_append, Ledger.handovers_append, hdeeds, hheading, hparting,
    List.nil_append, List.append_nil, Turn.delegations, List.filterMap_eq_flatMap_toList, denials,
    List.flatMap_assoc]
  rfl

/-- The commands of a reply that ask for a hand-over. -/
def Turn.requests (t : Turn σ) : List Command :=
  (Reply.parse t.reply).blocks.filterMap Block.delegation?

/-- The commands that are carried out are the first ones of the reply. -/
theorem Turn.Taken.delegations_isPrefix (h : t.Taken env agent message handover) :
    t.delegations <+: t.requests := by
  have hblocks := h.blocks.blocks_isPrefix.filterMap Block.delegation?
  rwa [Block.filterMap_formed fun _ => rfl, List.filterMap_map] at hblocks

/-- On a hop hand-overs leave nothing but denials. -/
theorem Takes.handovers {left turn : Nat} {messages : List Message} {text : String}
    {ts : List (Turn σ)} {out : Except AgentError Hop}
    (h : Takes env agent message left turn messages text handover s ts out s') :
    ∃ l, Extends env s l s' ∧ l.handovers = denials agent (ts.flatMap Turn.delegations) := by
  induction h with
  | @failed _ _ messages _ _ s s' e call =>
    have hext := agent.complete_extends env messages s
    rw [call] at hext
    exact ⟨_, hext, rfl⟩
  | @stopped _ _ _ t taken hs =>
    rw [List.flatMap_singleton]
    exact ⟨_, taken.extends_ledger.then_blank (Extends.log ..), taken.handovers⟩
  | @ended _ _ _ t taken hs hc =>
    rw [List.flatMap_singleton]
    exact ⟨_, taken.extends_ledger, taken.handovers⟩
  | @usedUp _ _ t taken hs hc =>
    rw [List.flatMap_singleton]
    exact ⟨_, taken.extends_ledger.then_blank (logMaxTurns_extends ..), taken.handovers⟩
  | @again _ _ _ t ts _ _ taken hs hc rest ih =>
    obtain ⟨l, hext, hl⟩ := ih
    refine ⟨_, taken.extends_ledger.trans hext, ?_⟩
    rw [Ledger.handovers_append, taken.handovers, hl, List.flatMap_cons, denials_append]

/-- A hop that fails does so after a turn that called a tool, if it got any reply. -/
theorem Takes.callsTool_of_error {left turn : Nat} {messages : List Message} {text : String}
    {ts : List (Turn σ)} {out : Except AgentError Hop} {e : AgentError}
    (h : Takes env agent message left turn messages text handover s ts out s')
    (ho : out = .error e) : ∀ t ∈ ts, t.CallsTool := by
  induction h with
  | failed call => exact fun t ht => absurd ht List.not_mem_nil
  | stopped | ended | usedUp => cases ho
  | again taken hs hc rest ih =>
    intro t ht
    rcases List.mem_cons.mp ht with rfl | ht
    · exact (taken.toolCalls_iff hs).mp hc
    · exact ih ho t ht

end Turns

/-! ### The hand-over that counts -/

section Visits

variable {d : Dispatcher σ} {pad : Scratchpad} {depth : Nat} {chain : Chain}
  {out : Except AgentError Hop} {sequel : Sequel} {v : Visit σ}

/-- The chain with which another agent takes over. -/
def Sequel.chain? : Sequel → Option Chain
  | .over _ => none
  | .onward chain => some chain

/-- What becomes of a hand-over that counts: the action of the agent that asked for it, and the
chain with which another agent takes over. -/
inductive Decides (d : Dispatcher σ) (depth : Nat) (agent : Agent) (asked : Handover) :
    List Action → Option Chain → Prop
  | refused (hlimit : min d.maxDepth agent.config.maxTurns < depth + 1) :
      Decides d depth agent asked [handoverAction agent asked.target asked.arguments
        (.failed (.nestingLimitExceeded (depth + 1) (min d.maxDepth agent.config.maxTurns)))] none
  | unknown (hlimit : depth + 1 ≤ min d.maxDepth agent.config.maxTurns)
      (htarget : d.router.get? asked.target = none) :
      Decides d depth agent asked [handoverAction agent asked.target asked.arguments
        (.failed (.unknownAgent asked.target))] none
  | followed {next : Chain} (hlimit : depth + 1 ≤ min d.maxDepth agent.config.maxTurns)
      (htarget : d.router.get? asked.target = some next.agent)
      (hmessage : next.message = asked.message) :
      Decides d depth agent asked [handoverAction agent asked.target asked.arguments
        (.completed ("delegated to " ++ next.agent.name))] (some next)

/-- A hop has an action for the hand-over that it comes to with its last text, unless the work is
cancelled then; otherwise nothing is recorded and nobody takes over. -/
theorem Follows.handovers (h : Follows d depth chain s out sequel s') :
    ∃ l, Extends d.env s l s' ∧
      ((l.handovers = [] ∧ sequel.chain? = none ∧
          ∀ hop, out = .ok hop → hop.stopReason = .textResponse →
            hop.handover = none ∨ s'.cancelled = true) ∨
        ∃ hop asked, out = .ok hop ∧ hop.stopReason = .textResponse ∧
          hop.handover = some asked ∧ s'.cancelled = false ∧
          Decides d depth chain.agent asked l.handovers sequel.chain?) := by
  cases h with
  | failed =>
    exact ⟨_, Extends.emit rfl fun _ => rfl, .inl ⟨rfl, rfl, fun hop ho => by cases ho⟩⟩
  | ended hr =>
    refine ⟨_, hopDone_extends .., .inl ⟨rfl, rfl, fun hop ho hreason => .inl ?_⟩⟩
    obtain rfl := Except.ok.inj ho
    exact hr.resolve_left fun hne => hne hreason
  | cancelled hr hh hs =>
    exact ⟨_, (hopDone_extends ..).trans (.look ..), .inl ⟨rfl, rfl, fun _ _ _ => .inr hs⟩⟩
  | refused hr hh hs hl =>
    have hopen := RunState.not_cancelled_of_look hs
    exact ⟨_, (hopDone_extends ..).trans (refuseHandover_extends _ _ _ _ hopen),
      .inr ⟨_, _, rfl, hr, hh, hopen, .refused hl⟩⟩
  | unknown hr hh hs hl hg =>
    have hopen := RunState.not_cancelled_of_look hs
    exact ⟨_, (hopDone_extends ..).trans (failHandover_extends _ _ hopen),
      .inr ⟨_, _, rfl, hr, hh, hopen, .unknown hl hg⟩⟩
  | @followed hop asked next hr hh hs hl hg =>
    have hdecides := @Decides.followed _ d depth chain.agent asked (chain.handOver hop asked next)
      hl hg rfl
    have hopen := RunState.not_cancelled_of_look hs
    exact ⟨_, (hopDone_extends ..).trans (followHandover_extends _ _ _ _ hopen),
      .inr ⟨_, _, rfl, hr, hh, hopen, hdecides⟩⟩

namespace Visit

/-- The commands of a visit that ask for a hand-over, in all its replies. -/
def requests (v : Visit σ) : List Command :=
  v.turns.flatMap Turn.requests

/-- The commands of a visit that ask for a hand-over, as far as they were carried out. -/
def delegations (v : Visit σ) : List Command :=
  v.turns.flatMap Turn.delegations

/-- A visit ends with a reply that is carried out to its end and calls no tool, and the work is not
cancelled when it is decided how to go on. -/
def Settled (v : Visit σ) : Prop :=
  v.passed.cancelled = false ∧ ∃ t, v.turns.getLast? = some t ∧ ¬ t.CutShort ∧ ¬ t.CallsTool

end Visit

/-- What becomes of all hand-overs that a visit asks for: the actions recorded for them, and the
chain with which another agent takes over. -/
inductive Delegates (d : Dispatcher σ) (v : Visit σ) : List Action → Option Chain → Prop
  | denied {actions : List Action} (hnest : v.agent.config.canNest = false)
      (hdenied : List.Forall₂ (Denied v.agent v.chain.message) v.delegations actions) :
      Delegates d v actions none
  | dropped (hnest : v.agent.config.canNest = true) (hnone : v.requests = [] ∨ ¬ v.Settled) :
      Delegates d v [] none
  | decided {c : Command} {asked : Handover} {actions : List Action} {next : Option Chain}
      (hnest : v.agent.config.canNest = true) (hfirst : v.requests.head? = some c)
      (hasks : Asks c v.chain.message asked) (hsettled : v.Settled)
      (hdecides : Decides d v.depth v.agent asked actions next) : Delegates d v actions next

/-- A hop that comes to a text is settled unless the work is cancelled, and no other is. -/
theorem Visit.Made.settled_iff (h : v.Made d pad sequel) :
    v.Settled ↔ v.passed.cancelled = false ∧
      ∃ hop, v.outcome = .ok hop ∧ hop.stopReason = .textResponse := by
  refine and_congr_right fun _ => ?_
  cases ho : v.outcome with
  | error e =>
    refine iff_of_false ?_ fun ⟨hop, hok, _⟩ => by cases hok
    rintro ⟨t, ht, _, hcalls⟩
    exact hcalls (h.turns.callsTool_of_error ho t (List.mem_of_getLast? ht))
  | ok hop =>
    obtain ⟨t, ht, _, hcloses⟩ := h.turns.closes ho
    constructor
    · rintro ⟨u, hu, hcut, hcalls⟩
      obtain rfl := Option.some.inj (ht.symm.trans hu)
      refine ⟨hop, rfl, ?_⟩
      generalize hop.stopReason = reason at hcloses
      cases hcloses with
      | cut hcut' => exact absurd hcut' hcut
      | usedUp _ hcalls' => exact absurd hcalls' hcalls
      | replied => rfl
    · rintro ⟨hop', hok, hr⟩
      obtain rfl := Except.ok.inj hok
      rw [hr] at hcloses
      cases hcloses with
      | replied hcut hcalls => exact ⟨t, ht, hcut, hcalls⟩

theorem Visit.Made.delegates (h : v.Made d pad sequel) :
    Delegates d v v.ledger.handovers sequel.chain? := by
  obtain ⟨l, hturns, hdenials⟩ := h.turns.handovers
  obtain ⟨l', hpassed, hfollows⟩ := h.follows.handovers
  have hledger : v.ledger = _ := (((v.extends_opened d.env).trans hturns).trans hpassed).since
  have hall : v.ledger.handovers = denials v.agent v.delegations ++ l'.handovers := by
    rw [hledger, Ledger.handovers_append, Ledger.handovers_append, hdenials, Ledger.handovers_told,
      List.nil_append]
    rfl
  have hheld (hop : Hop) (ho : v.outcome = .ok hop) (hr : hop.stopReason = .textResponse) :
      hop.handover = v.held? := h.handover_eq ho hr
  cases hn : v.agent.config.canNest with
  | false =>
    have hnone : v.held? = none := by rw [Visit.held?, hn]; rfl
    rcases hfollows with ⟨hl', hnext, _⟩ | ⟨hop, asked, ho, hr, hh, _⟩
    · rw [hall, hl', List.append_nil, hnext]
      exact .denied hn (denied_denials hn ..)
    · rw [hheld hop ho hr, hnone] at hh
      cases hh
  | true =>
    have hheld? : v.held? = v.requests.head?.map fun c => handoverOf c v.chain.message := by
      rw [Visit.held?, if_pos hn]
      rfl
    rw [hall, denials_of_canNest hn, List.nil_append]
    rcases hfollows with ⟨hl', hnext, hunheld⟩ | ⟨hop, asked, ho, hr, hh, hs, hdecides⟩
    · rw [hl', hnext]
      refine .dropped hn (or_iff_not_imp_right.mpr fun hsettled => ?_)
      obtain ⟨hopen, hop, ho, hr⟩ := h.settled_iff.mp (not_not.mp hsettled)
      rcases hunheld hop ho hr with hnone | hcancelled
      · rw [hheld hop ho hr, hheld?, Option.map_eq_none_iff, List.head?_eq_none_iff] at hnone
        exact hnone
      · rw [hopen] at hcancelled
        cases hcancelled
    · rw [hheld hop ho hr, hheld?] at hh
      obtain ⟨c, hc, rfl⟩ := Option.map_eq_some_iff.mp hh
      exact .decided hn hc (asks_handoverOf ..) (h.settled_iff.mpr ⟨hs, hop, ho, hr⟩) hdecides

theorem Tours.chain_head {vs : List (Visit σ)} {out : Except AgentError Ending}
    (h : Tours d pad depth chain s vs out s') : vs[0]?.map Visit.chain = some chain := by
  cases h <;> rfl

/-- Whoever takes over is visited next. -/
theorem Tours.delegates {vs : List (Visit σ)} {out : Except AgentError Ending}
    (h : Tours d pad depth chain s vs out s') {i : Nat} {v : Visit σ} (hv : vs[i]? = some v) :
    Delegates d v v.ledger.handovers (vs[i + 1]?.map Visit.chain) := by
  induction h generalizing i with
  | last made =>
    cases i with
    | zero =>
      obtain rfl := Option.some.inj hv
      exact made.delegates
    | succ i => cases hv
  | @more w next vs out s' made rest ih =>
    cases i with
    | zero =>
      obtain rfl := Option.some.inj hv
      rw [List.getElem?_cons_succ, rest.chain_head]
      exact made.delegates
    | succ i => exact ih hv

theorem Course.delegates {hint : Option String} {vs : List (Visit σ)}
    {report : Dispatcher.Report σ} (h : Course d pad message hint s vs report) {i : Nat}
    {v : Visit σ} (hv : vs[i]? = some v) :
    Delegates d v v.ledger.handovers (vs[i + 1]?.map Visit.chain) := by
  cases h with
  | unrouted hr => cases hv
  | failed hr tours | answered hr tours => exact tours.delegates hv

/-- The actions of a dispatch are those of its visits, one after the other. -/
theorem Course.actions_eq {hint : Option String} {vs : List (Visit σ)}
    {report : Dispatcher.Report σ} {world : σ} {cancelled : Bool} {telemetry : Option Telemetry}
    (h : Course d pad message hint (.start world cancelled telemetry) vs report) :
    report.state.actions = vs.flatMap fun v => v.ledger.actions := by
  cases h with
  | unrouted hr => rfl
  | failed hr tours =>
    exact (congrArg Ledger.actions tours.extends_join.ledger).trans (List.flatMap_map ..)
  | @answered agent vs ending s' hr tours =>
    change (ending.finish s').actions = _
    rw [Ending.actions_finish]
    exact (congrArg Ledger.actions tours.extends_join.ledger).trans (List.flatMap_map ..)

end Visits

/-- What becomes of the hand-overs that are asked for in a dispatch, visit for visit. An agent that
may not hand over is denied each one that it comes to. Of any other agent at most one counts, the
first in all replies of its visit, if the last of them calls no tool. The next visit has the agent
that was asked for and the message that was passed on. -/
theorem handle_delegates (d : Dispatcher σ) (pad : Scratchpad) (message : String)
    (hint : Option String) (world : σ) (cancelled : Bool) (telemetry : Option Telemetry) :
    let report := d.handle pad message hint (.start world cancelled telemetry)
    ∃ vs : List (Visit σ),
      Course d pad message hint (.start world cancelled telemetry) vs report ∧
      report.state.journal.filterMap Entry.reply? = allReplies vs ∧
      report.state.actions.filter (fun a => a.kind = .delegation) =
        vs.flatMap (fun v => v.ledger.handovers) ∧
      (∀ result, report.outcome = .ok result → result.actions = report.state.actions) ∧
      (∀ v ∈ vs, ∀ t ∈ v.turns, t.delegations <+: t.requests ∧
        (¬ t.CutShort → t.delegations = t.requests)) ∧
      (∀ v ∈ vs, ∀ t, v.turns[0]? = some t →
        ∃ earlier, t.sent = earlier ++ [.user v.chain.message]) ∧
      (∀ v, vs[0]? = some v → v.chain.message = message) ∧
      ∀ (i : Nat) v, vs[i]? = some v →
        Delegates d v v.ledger.handovers (vs[i + 1]?.map Visit.chain) := by
  intro report
  obtain ⟨vs, course⟩ := handle_course d pad message hint (.start world cancelled telemetry)
  refine ⟨vs, course, ?_, ?_, ?_, ?_, ?_, fun v hv => course.message_of_head hv,
    fun i v hv => course.delegates hv⟩
  · rw [← Ledger.replies_state]
    exact course.replies
  · rw [course.actions_eq, List.filter_flatMap]
    rfl
  · exact fun result ho => (course.told result ho).1
  · intro v hv t ht
    obtain ⟨_, made⟩ := course.made_of_mem v hv
    obtain ⟨_, taken⟩ := made.turns.taken_of_mem t ht
    refine ⟨taken.delegations_isPrefix, fun hcut => taken.delegations_eq ?_⟩
    rw [← Bool.not_eq_true, taken.stopped_iff]
    exact hcut
  · intro v hv t ht
    obtain ⟨_, made⟩ := course.made_of_mem v hv
    obtain ⟨_, _, conversation⟩ := made.conversation
    obtain ⟨_, window, _, _, hsent⟩ := conversation.first t.sent (conversation.sent 0 t ht)
    exact ⟨_ :: window, hsent⟩

end Dispatch

end HomeAgents
