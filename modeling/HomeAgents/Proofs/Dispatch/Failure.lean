import HomeAgents.Proofs.Dispatch.Reason
import HomeAgents.Proofs.Dispatch.Stream
import Mathlib.Data.List.Flatten

/-!
# What fails a dispatch

A dispatch fails in two ways only: nobody is there to take the message, or a model call comes to no
reply. Whatever else goes wrong is a failed action or a malformed block. It is recorded and told,
and the rest of the reply is carried out.
-/

namespace HomeAgents

open Dispatch

variable {σ : Type}

namespace Agent

section Asking

variable (a : Agent) (env : Environment σ) (messages : List Message) (s : RunState σ)

/-- What the provider says to an agent that asks it. Work that is seen to be cancelled asks for
nothing, and nothing reaches an agent that has stopped waiting. -/
def heard? : Option (Except ProviderError String) :=
  let answer := (env.model a.name).complete messages a.params s.world
  let leaves := answer.value.waitMs.any fun ms => answer.cancels || decide (a.timeoutMs < ms)
  if ((a.attempted messages s).look env).cancelled || leaves then none
  else some answer.value.reply

/-- Why nothing reaches the agent. -/
def silence : String :=
  if ((a.attempted messages s).look env).cancelled ||
      ((env.model a.name).complete messages a.params s.world).cancels then "cancelled"
  else ProviderError.timeout.message

theorem outcomeOf_eq (answer : Answer σ Completion) :
    a.outcomeOf answer =
      if answer.value.waitMs.any fun ms => answer.cancels || decide (a.timeoutMs < ms) then
        .error (.modelUnavailable a.name
          (if answer.cancels then "cancelled" else ProviderError.timeout.message))
      else answer.value.reply.mapError (·.toAgentError a.name) := by
  rw [outcomeOf]
  cases answer.value.waitMs with
  | none => cases answer.value.reply <;> rfl
  | some ms =>
    by_cases hc : answer.cancels = true
    · simp [hc, cancelledError]
    · by_cases ht : a.timeoutMs < ms
      · simp [hc, ht, ProviderError.toAgentError]
      · cases hr : answer.value.reply <;> simp [hc, ht, Except.mapError]

/-- An agent gets what it hears, or it finds its model unavailable. -/
theorem complete_fst :
    (a.complete env messages s).1 =
      match a.heard? env messages s with
      | some reply => reply.mapError (·.toAgentError a.name)
      | none => .error (.modelUnavailable a.name (a.silence env messages s)) := by
  have hfst : (a.complete env messages s).1 = (a.call env messages s).1 := rfl
  rw [hfst, call, ← attempted]
  cases hs : ((a.attempted messages s).look env).cancelled with
  | true => simp [heard?, silence, hs, cancelledError]
  | false =>
    have hw : ((a.attempted messages s).look env).world = s.world := RunState.world_look ..
    simp only [hw, outcomeOf_eq, heard?, silence, hs, Bool.false_or, Bool.false_eq_true,
      ↓reduceIte]
    split <;> rfl

variable {a env messages s}

/-- A model call fails as one that the provider limits exactly if the provider says so. -/
theorem complete_error {e : AgentError} (h : (a.complete env messages s).1 = .error e) :
    (∃ retryAfter, e = .rateLimited a.name retryAfter ∧
      a.heard? env messages s = some (.error (.rateLimited retryAfter))) ∨
    ∃ reason, e = .modelUnavailable a.name reason ∧
      ∀ retryAfter, a.heard? env messages s ≠ some (.error (.rateLimited retryAfter)) := by
  rw [complete_fst] at h
  cases hh : a.heard? env messages s with
  | none =>
    rw [hh] at h
    exact .inr ⟨_, (Except.error.inj h).symm, fun _ hne => by cases hne⟩
  | some reply =>
    rw [hh] at h
    cases reply with
    | ok text => cases h
    | error said =>
      have he : e = said.toAgentError a.name := (Except.error.inj h).symm
      cases said with
      | rateLimited retryAfter => exact .inl ⟨retryAfter, he, rfl⟩
      | timeout | transport | status | malformed | missingApiKey =>
        exact .inr ⟨_, he, fun _ hne => by cases hne⟩

end Asking

end Agent

/-- A message goes to nobody only if the agent that is named or chosen for it is not there. -/
theorem Router.select_error {r : Router} {message : String} {hint : Option String} {e : AgentError}
    (h : (r.select message hint).1 = .error e) :
    e = .unknownAgent (hint.getD (r.choice message)) ∧
      r.get? (hint.getD (r.choice message)) = none := by
  have hnamed : ∀ name, (r.select message (some name)).1 = .error e →
      e = .unknownAgent name ∧ r.get? name = none := by
    intro name hname
    cases hg : r.get? name with
    | some found => simp [Router.select, hg] at hname
    | none =>
      simp only [Router.select, hg, Except.error.injEq] at hname
      exact ⟨hname.symm, rfl⟩
  cases hint with
  | some name => exact hnamed name h
  | none => exact hnamed (r.choice message) h

namespace Dispatch

variable {env : Environment σ} {agent : Agent} {message : String} {s s' : RunState σ}

/-! ### The call that fails -/

/-- Where a hop fails, the call that follows on its last turn has failed. -/
theorem Takes.call_of_error {left turn : Nat} {messages : List Message} {text : String}
    {handover : Option Handover} {ts : List (Turn σ)} {out : Except AgentError Hop}
    {e : AgentError} (h : Takes env agent message left turn messages text handover s ts out s')
    (ho : out = .error e) :
    agent.complete env ((ts.getLast?.map fun t => t.next env agent).getD messages)
      ((ts.getLast?.map Turn.closed).getD s) = (.error e, s') := by
  induction h with
  | failed call =>
    obtain rfl := Except.error.inj ho
    exact call
  | stopped taken hs | ended taken hs hc | usedUp taken hs hc => cases ho
  | @again left _ _ t ts _ s' taken hs hc rest ih =>
    have hrest := ih ho
    -- if this turn was the last one, the call that fails is the one that the rest begins with
    rw [List.getLast?_cons]
    cases hlast : ts.getLast? <;> rwa [hlast] at hrest

section Visits

variable {d : Dispatcher σ} {pad : Scratchpad} {v : Visit σ}

/-- The state in which the agent asks after its last turn. -/
def Visit.asking (v : Visit σ) : RunState σ :=
  (v.turns.getLast?.map Turn.closed).getD v.opened

/-- What it asks then. -/
def Visit.pending (v : Visit σ) (env : Environment σ) (pad : Scratchpad) : List Message :=
  (v.turns.getLast?.map fun t => t.next env v.agent).getD (v.first env pad)

/-- The agent of a visit gets no reply any more. The failure is one of the model call and names the
agent, and it says so exactly if the provider limits its calls. -/
structure Visit.Deserted (env : Environment σ) (pad : Scratchpad) (v : Visit σ) (e : AgentError) :
    Prop where
  outcome : v.outcome = .error e
  call : v.agent.complete env (v.pending env pad) v.asking = (.error e, v.left)
  named : (∃ retryAfter, e = .rateLimited v.agent.name retryAfter) ∨
    ∃ reason, e = .modelUnavailable v.agent.name reason
  limited : ∀ retryAfter, e = .rateLimited v.agent.name retryAfter ↔
    v.agent.heard? env (v.pending env pad) v.asking = some (.error (.rateLimited retryAfter))

theorem Visit.Made.deserted {sequel : Sequel} {e : AgentError} (h : v.Made d pad sequel)
    (ho : v.outcome = .error e) : v.Deserted d.env pad e := by
  have hcall := h.turns.call_of_error ho
  rcases Agent.complete_error (congrArg Prod.fst hcall) with
    ⟨said, he, hheard⟩ | ⟨reason, he, hheard⟩
  · refine ⟨ho, hcall, .inl ⟨said, he⟩, fun retryAfter => ?_⟩
    rw [he, Visit.pending, Visit.asking, hheard]
    simp
  · refine ⟨ho, hcall, .inr ⟨reason, he⟩, fun retryAfter => ?_⟩
    refine iff_of_false (fun hlimited => ?_) (hheard retryAfter)
    rw [he] at hlimited
    cases hlimited

/-- How a dispatch fails. If nobody is found nothing has happened yet, else the last agent gets no
reply. -/
inductive FailsBy (d : Dispatcher σ) (pad : Scratchpad) (message : String) (hint : Option String)
    (s : RunState σ) (vs : List (Visit σ)) (report : Dispatcher.Report σ) : AgentError → Prop
  | unrouted {name : String}
      (hr : (d.router.select message hint).1 = .error (.unknownAgent name))
      (hnone : d.router.get? name = none)
      (hstate : ∃ lines : List LogLine,
        report.state = { s with journal := s.journal ++ lines.map .log }) :
      FailsBy d pad message hint s vs report (.unknownAgent name)
  | deserted {v : Visit σ} {e : AgentError} (hlast : vs.getLast? = some v)
      (hv : v.Deserted d.env pad e)
      (htold : report.state.events.getLast? = some (.error v.agent.name e.message)) :
      FailsBy d pad message hint s vs report e

/-- A dispatch fails with a visit that fails. -/
theorem Visit.Made.error_iff {out : Except AgentError Ending} (h : v.Made d pad (.over out))
    (e : AgentError) : out = .error e ↔ v.outcome = .error e := by
  have hfollows := h.follows
  cases ho : v.outcome with
  | error e' =>
    rw [ho] at hfollows
    obtain rfl := Sequel.over.inj hfollows.of_error
    simp
  | ok hop =>
    rw [ho] at hfollows
    generalize v.passed = s' at hfollows
    cases hfollows <;> simp

theorem Course.fails_iff {hint : Option String} {vs : List (Visit σ)}
    {report : Dispatcher.Report σ} (h : Course d pad message hint s vs report) (e : AgentError) :
    report.outcome = .error e ↔ FailsBy d pad message hint s vs report e := by
  constructor
  · intro ho
    cases h with
    | unrouted hr =>
      obtain rfl := Except.error.inj ho
      obtain ⟨rfl, hnone⟩ := Router.select_error hr
      exact .unrouted hr hnone ⟨_, rfl⟩
    | failed hr tours =>
      obtain rfl := Except.error.inj ho
      -- the event of the failure is the last thing that the last visit does
      obtain ⟨v, hlast, _, made, hpassed⟩ := tours.exists_last
      have houtcome := (made.error_iff _).mp rfl
      refine .deserted hlast (made.deserted houtcome) ?_
      have hfollows := made.follows
      rw [houtcome] at hfollows
      generalize v.passed = s' at hfollows hpassed
      subst hpassed
      cases hfollows with
      | failed => rw [RunState.events_emit, List.getLast?_concat]; rfl
    | answered hr tours => cases ho
  · intro hfails
    cases hfails with
    | unrouted hr hnone hstate => exact (h.tells_unrouted hr).1
    | deserted hlast hv htold =>
      cases h with
      | unrouted hr => cases hlast
      | failed hr tours =>
        obtain ⟨w, hw, _, made, _⟩ := tours.exists_last
        obtain rfl := Option.some.inj (hlast.symm.trans hw)
        exact congrArg _ (Except.error.inj ((made.error_iff e).mpr hv.outcome))
      | answered hr tours =>
        obtain ⟨w, hw, _, made, _⟩ := tours.exists_last
        obtain rfl := Option.some.inj (hlast.symm.trans hw)
        cases (made.error_iff e).mpr hv.outcome

end Visits

/-! ### The failures of single actions -/

/-- A block fails from a state on: its errand does, be it only because the work has been cancelled
before its tool could run, or it asks to hand over for an agent that may not. -/
inductive FailsBlock (env : Environment σ) (agent : Agent) (s : RunState σ) :
    Block → AgentError → Prop
  | errand {b : Block} {x : Errand} {service : Option String} {e : AgentError} {calls : List Entry}
      {cancels : Bool} (hx : b.errand? = some x)
      (hsettles : Settles env agent s x service (.failed e) calls cancels) :
      FailsBlock env agent s b e
  | handover {c : Command} (hc : c.action = Builtin.delegateAction)
      (hn : agent.config.canNest = false) :
      FailsBlock env agent s (.command c)
        (.capabilityDenied agent.name .delegation (handoverTarget c))

theorem FailsBlock.errand_iff {b : Block} {x : Errand} {e : AgentError}
    (hx : b.errand? = some x) : FailsBlock env agent s b e ↔
      ∃ service calls cancels, Settles env agent s x service (.failed e) calls cancels := by
  constructor
  · intro h
    cases h with
    | errand hx' hsettles =>
      obtain rfl := Option.some.inj (hx.symm.trans hx')
      exact ⟨_, _, _, hsettles⟩
    | handover hc hn => simp [Block.errand?, hc] at hx
  · rintro ⟨_, _, _, hsettles⟩
    exact .errand hx hsettles

theorem FailsBlock.handover_iff {c : Command} {e : AgentError}
    (hc : c.action = Builtin.delegateAction) : FailsBlock env agent s (.command c) e ↔
      agent.config.canNest = false ∧
        e = .capabilityDenied agent.name .delegation (handoverTarget c) := by
  constructor
  · intro h
    cases h with
    | errand hx hsettles => simp [Block.errand?, hc] at hx
    | handover _ hn => exact ⟨hn, rfl⟩
  · rintro ⟨hn, rfl⟩
    exact .handover hc hn

/-- A block never fails as a model call does. -/
theorem FailsBlock.not_transport {b : Block} {e : AgentError}
    (h : FailsBlock env agent s b e) : e.isTransport = false := by
  cases h with
  | handover hc hn => rfl
  | @errand b x service e calls cancels hx hsettles =>
    generalize ho : Outcome.failed e = outcome at hsettles
    cases hsettles with
    | toolDenied | toolUnknown | toolRefused | commandDenied | unregistered =>
      obtain rfl := Outcome.failed.inj ho
      rfl
    | @toolRun tool _ _ answer =>
      rw [ToolResult.outcome] at ho
      split at ho
      · obtain rfl := Outcome.failed.inj ho
        rfl
      · cases ho
    | @serviceCall _ service _ _ answer =>
      cases hv : answer.value with
      | ok response => rw [hv] at ho; cases ho
      | error said =>
        rw [hv] at ho
        obtain rfl := Outcome.failed.inj ho
        rfl

/-- A block that fails records one action, with its failure; no other block records a failure. -/
theorem Deed.Done.fails_iff {x : Deed σ} (h : x.Done env agent message) (e : AgentError) :
    FailsBlock env agent x.before x.block e ↔
      ∃ a, x.ledger.actions = [a] ∧ a.agent = agent.name ∧ a.outcome = .failed e := by
  cases he : x.block.errand? with
  | some errand =>
    obtain ⟨service, outcome, calls, cancels, ms, hsettles, hledger⟩ := h.settles he
    rw [FailsBlock.errand_iff he, hledger]
    constructor
    · rintro ⟨_, _, _, hfailed⟩
      exact ⟨errand.action agent service outcome ms, rfl, rfl, hsettles.outcome_unique hfailed⟩
    · rintro ⟨a, ha, _, hfailed⟩
      obtain rfl := (List.cons.inj ha).1
      obtain rfl : outcome = .failed e := hfailed
      exact ⟨_, _, _, hsettles⟩
  | none =>
    obtain ⟨c, hb, hc, hledger⟩ := h.handover he
    rw [hb, FailsBlock.handover_iff hc, hledger]
    cases hn : agent.config.canNest with
    | true =>
      rw [if_pos rfl]
      constructor
      · rintro ⟨hdenied, _⟩
        cases hdenied
      · rintro ⟨a, ha, _⟩
        cases ha
    | false =>
      rw [if_neg Bool.false_ne_true]
      constructor
      · rintro ⟨_, rfl⟩
        exact ⟨_, rfl, rfl, rfl⟩
      · rintro ⟨a, ha, _, hfailed⟩
        obtain rfl := (List.cons.inj ha).1
        exact ⟨rfl, (Outcome.failed.inj hfailed).symm⟩

/-- The hand-over that a visit ends with fails: it goes too deep, or nobody is there to take it. -/
inductive FailsHandover (d : Dispatcher σ) (v : Visit σ) : Handover → AgentError → Prop
  | tooDeep {hop : Hop} {asked : Handover} (ho : v.outcome = .ok hop)
      (hr : hop.stopReason = .textResponse) (hh : hop.handover = some asked)
      (hs : v.passed.cancelled = false) (hl : v.limit d < v.depth + 1) :
      FailsHandover d v asked (.nestingLimitExceeded (v.depth + 1) (v.limit d))
  | noTarget {hop : Hop} {asked : Handover} (ho : v.outcome = .ok hop)
      (hr : hop.stopReason = .textResponse) (hh : hop.handover = some asked)
      (hs : v.passed.cancelled = false) (hl : v.depth + 1 ≤ v.limit d)
      (hg : d.router.get? asked.target = none) :
      FailsHandover d v asked (.unknownAgent asked.target)

section Visits

variable {d : Dispatcher σ} {pad : Scratchpad} {v : Visit σ} {asked : Handover} {e : AgentError}

/-- After a hand-over that fails the dispatch is over, with a result. -/
theorem Visit.Made.over_of_fails {sequel : Sequel} (h : v.Made d pad sequel)
    (hf : FailsHandover d v asked e) :
    ∃ ending, sequel = .over (.ok ending) ∧ LastFailed v.passed.actions v.agent asked e := by
  have hfollows := h.follows
  cases hf with
  | tooDeep ho hr hh hs hl =>
    generalize v.passed = s' at hfollows hs ⊢
    rw [ho] at hfollows
    rw [Visit.limit] at hl
    cases hfollows with
    | refused hr' hh' hs' hl' =>
      obtain rfl := Option.some.inj (hh.symm.trans hh')
      exact ⟨_, rfl, lastFailed_record ..⟩
    | ended hr' => simp [hr, hh] at hr'
    | cancelled hr' hh' hs' => rw [hs] at hs'; cases hs'
    | unknown hr' hh' hs' hl' | followed hr' hh' hs' hl' => exact absurd hl (Nat.not_lt.mpr hl')
  | noTarget ho hr hh hs hl hg =>
    generalize v.passed = s' at hfollows hs ⊢
    rw [ho] at hfollows
    rw [Visit.limit] at hl
    cases hfollows with
    | unknown hr' hh' hs' hl' hg' =>
      obtain rfl := Option.some.inj (hh.symm.trans hh')
      exact ⟨_, rfl, lastFailed_record ..⟩
    | ended hr' => simp [hr, hh] at hr'
    | cancelled hr' hh' hs' => rw [hs] at hs'; cases hs'
    | refused hr' hh' hs' hl' => exact absurd hl' (Nat.not_lt.mpr hl)
    | followed hr' hh' hs' hl' hg' =>
      obtain rfl := Option.some.inj (hh.symm.trans hh')
      rw [hg] at hg'
      cases hg'

theorem Tours.over_of_fails {depth : Nat} {chain : Chain} {vs : List (Visit σ)}
    {out : Except AgentError Ending} (h : Tours d pad depth chain s vs out s') (hv : v ∈ vs)
    (hf : FailsHandover d v asked e) :
    ∃ ending, out = .ok ending ∧ LastFailed s'.actions v.agent asked e := by
  induction h with
  | last made =>
    obtain rfl := List.mem_singleton.mp hv
    obtain ⟨ending, hout, hlast⟩ := made.over_of_fails hf
    exact ⟨ending, Sequel.over.inj hout, hlast⟩
  | more made rest ih =>
    rcases List.mem_cons.mp hv with rfl | hv
    · obtain ⟨_, hout, _⟩ := made.over_of_fails hf
      cases hout
    · exact ih hv

/-- The actions of the deeds of a visit are among those that it adds. -/
theorem Visit.Made.actions_sublist {sequel : Sequel} (h : v.Made d pad sequel) :
    (v.turns.flatMap fun t => t.deeds.flatMap fun x => x.ledger.actions).Sublist
      v.ledger.actions := by
  obtain ⟨before, after, _, _, hext⟩ := h.exists_extends
  have hturn : ∀ t : Turn σ, (t.ledger d.env v.agent).actions =
      t.deeds.flatMap fun x => x.ledger.actions := by
    intro t
    rw [Turn.ledger, Ledger.actions_append, Ledger.actions_append, actions_join, List.flatMap_map]
    exact List.append_nil _
  have hledger : v.ledger = _ := hext.since
  rw [hledger, Ledger.actions_append, Ledger.actions_append, actions_join, List.flatMap_map]
  simp only [hturn]
  exact (List.sublist_append_right ..).trans (List.sublist_append_left ..)

end Visits

section Courses

variable {d : Dispatcher σ} {pad : Scratchpad} {hint : Option String} {vs : List (Visit σ)}
  {report : Dispatcher.Report σ}

theorem Course.actions_sublist (h : Course d pad message hint s vs report) :
    ((allDeeds vs).flatMap fun x => x.ledger.actions).Sublist report.state.actions := by
  obtain ⟨before, after, _, _, hext⟩ := h.extends_join
  have hvisits : ((allDeeds vs).flatMap fun x => x.ledger.actions).Sublist
      (vs.flatMap fun v => v.ledger.actions) := by
    rw [← flatMap_allDeeds]
    refine List.Sublist.flatMap_right vs fun v hv => ?_
    obtain ⟨_, made⟩ := h.made_of_mem v hv
    exact made.actions_sublist
  have hactions : report.state.actions = s.actions ++
      (before.actions ++ (vs.flatMap fun v => v.ledger.actions) ++ after.actions) := by
    have hledger := congrArg Ledger.actions hext.ledger
    simp only [Ledger.actions_append, actions_join, List.flatMap_map] at hledger
    exact hledger
  rw [hactions]
  exact hvisits.trans (((List.sublist_append_right ..).trans (List.sublist_append_left ..)).trans
    (List.sublist_append_right ..))

theorem Course.result_of_fails {v : Visit σ} {asked : Handover} {e : AgentError}
    (h : Course d pad message hint s vs report) (hv : v ∈ vs) (hf : FailsHandover d v asked e) :
    ∃ result, report.outcome = .ok result ∧ LastFailed result.actions v.agent asked e := by
  cases h with
  | unrouted hr => cases hv
  | failed hr tours =>
    obtain ⟨_, hout, _⟩ := tours.over_of_fails hv hf
    cases hout
  | @answered agent vs ending s' hr tours =>
    obtain ⟨_, _, hlast⟩ := tours.over_of_fails hv hf
    refine ⟨_, rfl, ?_⟩
    rw [Ending.result, Ending.actions_finish]
    exact hlast

/-- What becomes of the failures on the way of a dispatch of these visits. A block that fails
records this, one action for each, and so does a hand-over that fails; malformed blocks are noted.
All of it is told, and the result lists it if there is one. Only where the work is cancelled are
blocks left out. -/
structure Contains (d : Dispatcher σ) (vs : List (Visit σ)) (report : Dispatcher.Report σ) :
    Prop where
  blocks : ∀ v ∈ vs, ∀ t ∈ v.turns, ∀ x ∈ t.deeds, ∀ e,
    FailsBlock d.env v.agent x.before x.block e ↔
      ∃ a, x.ledger.actions = [a] ∧ a.agent = v.agent.name ∧ a.outcome = .failed e
  single : ∀ v ∈ vs, ∀ t ∈ v.turns, ∀ x ∈ t.deeds, ∀ e,
    FailsBlock d.env v.agent x.before x.block e → e.isTransport = false
  recorded : ((allDeeds vs).flatMap fun x => x.ledger.actions).Sublist report.state.actions
  handovers : ∀ v ∈ vs, ∀ asked e, FailsHandover d v asked e →
    ∃ result, report.outcome = .ok result ∧ LastFailed result.actions v.agent asked e
  malformed : report.state.parseErrors = (allReplies vs).flatMap fun r => (Reply.parse r).errors
  remaining : ∀ t ∈ allTurns vs, ¬ t.CutShort →
    t.deeds.map Deed.block = (Reply.parse t.reply).blocks.filter fun b => !b.isMalformed
  replies : report.state.events.filterMap Event.reply? = allReplies vs
  ends : report.state.events.filter Event.isEnd = report.state.actions.map Event.ended
  errors : report.state.events.filterMap Event.parseError? =
    report.state.parseErrors.map BlockError.message
  result : ∀ result, report.outcome = .ok result →
    result.actions = report.state.actions ∧ result.parseErrors = report.state.parseErrors

theorem Course.contains {world : σ} {cancelled : Bool} {telemetry : Option Telemetry}
    (h : Course d pad message hint (.start world cancelled telemetry) vs report) :
    Contains d vs report where
  blocks := by
    intro v hv t ht x hx
    exact (h.done_of_mem hv ht hx).1.fails_iff
  single := fun v hv t ht x hx e hf => hf.not_transport
  recorded := h.actions_sublist
  handovers := fun v hv asked e hf => h.result_of_fails hv hf
  malformed := h.errors
  remaining := by
    intro t ht hcut
    obtain ⟨_, _, _, taken⟩ := h.taken_of_mem ht
    refine taken.blocks.blocks_eq ?_
    rwa [← taken.stopped_iff, Bool.not_eq_true] at hcut
  replies := h.replies_told
  ends := h.ends_eq
  errors := h.errors_eq
  result := h.told

end Courses

/-- A dispatch fails exactly if nobody takes its message or the last agent gets no reply. No other
failure fails it, and none but a cancellation keeps the rest of a reply from being carried out. -/
theorem handle_contains_failures (d : Dispatcher σ) (pad : Scratchpad) (message : String)
    (hint : Option String) (world : σ) (cancelled : Bool) (telemetry : Option Telemetry) :
    let start := RunState.start world cancelled telemetry
    let report := d.handle pad message hint start
    ∃ vs : List (Visit σ), Course d pad message hint start vs report ∧
      (∀ e, report.outcome = .error e ↔ FailsBy d pad message hint start vs report e) ∧
      Contains d vs report := by
  intro start report
  obtain ⟨vs, course⟩ := handle_course d pad message hint start
  exact ⟨vs, course, course.fails_iff, course.contains⟩

end Dispatch

end HomeAgents
