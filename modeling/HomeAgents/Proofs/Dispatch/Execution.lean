import HomeAgents.Proofs.Dispatch.Account
import HomeAgents.Reply.Fence

/-!
# Execution

The errands that the replies of a dispatch ask for are carried out in order, each of them once. Only
a dispatch that is cancelled leaves errands out, and only those at the end of its last reply. A tool
that is about to run when the work is cancelled is refused, and this is recorded as well.
-/

namespace HomeAgents.Dispatch

variable {σ : Type} {env : Environment σ} {agent : Agent} {s s' s'' : RunState σ}

/-- The errands that were carried out in a turn. -/
def Turn.done (t : Turn σ) : List Errand :=
  t.deeds.filterMap fun x => x.block.errand?

/-- A deed is done at some moment between two states. -/
def Passes (env : Environment σ) (s s' : RunState σ) (x : Deed σ) : Prop :=
  ∃ earlier later, Extends env s earlier x.before ∧ Extends env x.before x.ledger x.after ∧
    Extends env x.after later s'

namespace Passes

variable {x : Deed σ} {l : Ledger}

theorem after (h : Passes env s' s'' x) (hl : Extends env s l s') : Passes env s s'' x := by
  obtain ⟨earlier, later, hbefore, hdeed, hafter⟩ := h
  exact ⟨l ++ earlier, later, hl.trans hbefore, hdeed, hafter⟩

theorem upTo (h : Passes env s s' x) (hl : Extends env s' l s'') : Passes env s s'' x := by
  obtain ⟨earlier, later, hbefore, hdeed, hafter⟩ := h
  exact ⟨earlier, later ++ l, hbefore, hdeed, hafter.trans hl⟩

end Passes

theorem Carries.passes {message : String} {bs : List Block} {p p' : Progress}
    {ds : List (Deed σ)} (h : Carries env agent message bs p s ds p' s') :
    ∀ x ∈ ds, Passes env s s' x := by
  induction h with
  | done => intro x hx; cases hx
  | skip tail ih => exact ih
  | stop hb hs => intro x hx; cases hx
  | @deed b rest p p₁ p' s s₁ s' ds hb hs run tail ih =>
    have hdone := Deed.Done.of_look hs hb run
    intro x hx
    rcases List.mem_cons.mp hx with rfl | hx
    · exact ⟨.blank, _, Extends.refl s, hdone.extends_ledger,
        tail.extends_join.trans tail.extends_parting⟩
    · exact (ih x hx).after hdone.extends_ledger

theorem Takes.passes {message : String} {left turn : Nat} {messages : List Message} {text : String}
    {handover : Option Handover} {ts : List (Turn σ)} {out : Except AgentError Hop}
    (h : Takes env agent message left turn messages text handover s ts out s') :
    ∀ t ∈ ts, ∀ x ∈ t.deeds, Passes env s s' x := by
  induction h with
  | failed call => intro t ht; cases ht
  | stopped taken hs =>
    intro t ht x hx
    obtain rfl := List.mem_singleton.mp ht
    exact ((taken.blocks.passes x hx).after taken.extends_heading).upTo (Extends.log ..)
  | ended taken hs hc =>
    intro t ht x hx
    obtain rfl := List.mem_singleton.mp ht
    exact (taken.blocks.passes x hx).after taken.extends_heading
  | usedUp taken hs hc =>
    intro t ht x hx
    obtain rfl := List.mem_singleton.mp ht
    exact ((taken.blocks.passes x hx).after taken.extends_heading).upTo (logMaxTurns_extends ..)
  | again taken hs hc rest ih =>
    intro t ht x hx
    rcases List.mem_cons.mp ht with rfl | ht
    · obtain ⟨_, _, hrest⟩ := rest.extends_join
      exact ((taken.blocks.passes x hx).after taken.extends_heading).upTo hrest
    · exact (ih t ht x hx).after taken.extends_ledger

section Visits

variable {d : Dispatcher σ} {pad : Scratchpad}

theorem Visit.Made.passes {v : Visit σ} {sequel : Sequel} (h : v.Made d pad sequel) :
    ∀ t ∈ v.turns, ∀ x ∈ t.deeds, Passes d.env v.entered v.passed x := by
  intro t ht x hx
  obtain ⟨_, _, hafter⟩ := h.follows.extends_aside
  exact ((h.turns.passes t ht x hx).after (v.extends_opened d.env)).upTo hafter

theorem Tours.passes {depth : Nat} {chain : Chain} {vs : List (Visit σ)}
    {out : Except AgentError Ending} (h : Tours d pad depth chain s vs out s') :
    ∀ v ∈ vs, ∀ t ∈ v.turns, ∀ x ∈ t.deeds, Passes d.env s s' x := by
  induction h with
  | last made =>
    intro v hv
    obtain rfl := List.mem_singleton.mp hv
    exact made.passes
  | more made rest ih =>
    intro v hv t ht x hx
    rcases List.mem_cons.mp hv with rfl | hv
    · exact (made.passes t ht x hx).upTo rest.extends_join
    · exact (ih v hv t ht x hx).after made.extends_ledger

variable {message : String} {hint : Option String} {vs : List (Visit σ)}
  {report : Dispatcher.Report σ}

theorem Course.passes (h : Course d pad message hint s vs report) :
    ∀ v ∈ vs, ∀ t ∈ v.turns, ∀ x ∈ t.deeds, Passes d.env s report.state x := by
  intro v hv t ht x hx
  cases h with
  | unrouted hr => cases hv
  | failed hr tours =>
    exact (tours.passes v hv t ht x hx).after (routed_emit_extends ..)
  | @answered agent vs ending s' hr tours =>
    obtain ⟨_, _, hfinish⟩ := ending.finish_extends d.env s'
    exact ((tours.passes v hv t ht x hx).after (routed_emit_extends ..)).upTo
      (hfinish.then_blank (Extends.log ..))

end Visits

section Errands

/-- The actions that a deed records for errands are the one that its block asks for. -/
theorem Deed.Done.errands {message : String} {x : Deed σ} (h : x.Done env agent message) :
    x.ledger.errands.filterMap Action.errand? = x.block.errand?.toList := by
  cases he : x.block.errand? with
  | none =>
    rw [(h.aside he).errands]
    rfl
  | some e =>
    obtain ⟨service, outcome, calls, cancels, ms, hset, hl⟩ := h.settles he
    have hk : (e.action agent service outcome ms).kind ≠ .delegation := hset.kind_ne
    rw [hl, Ledger.errands_settled hk, List.filterMap_cons, Errand.errand?_action hset.kind_ne]
    rfl

section Turns

variable {message : String} {handover : Option Handover} {t : Turn σ}

theorem Turn.Taken.errands (h : t.Taken env agent message handover) :
    (t.ledger env agent).errands.filterMap Action.errand? = t.done := by
  rw [Turn.errands_ledger, List.filterMap_flatMap, Turn.done, List.filterMap_eq_flatMap_toList]
  exact List.flatMap_congr fun x hx => (h.blocks.done_of_mem x hx).errands

/-- What is carried out in a turn are the first errands of its reply. -/
theorem Turn.Taken.done_isPrefix (h : t.Taken env agent message handover) :
    t.done <+: (Reply.parse t.reply).errands := by
  have hblocks := h.blocks.blocks_isPrefix.filterMap Block.errand?
  rwa [Block.filterMap_formed fun _ => rfl, List.filterMap_map] at hblocks

theorem Turn.Taken.done_eq (h : t.Taken env agent message handover)
    (hs : t.progress.stopped = false) : t.done = (Reply.parse t.reply).errands := by
  have hblocks := congrArg (List.filterMap Block.errand?) (h.blocks.blocks_eq hs)
  rwa [Block.filterMap_formed fun _ => rfl, List.filterMap_map] at hblocks

end Turns

/-- Lists that agree with others up to the last one are among the first of them, and lack at most
elements of the last one. -/
theorem flatMap_isPrefix {α β : Type} {f g : α → List β} {xs : List α}
    (hle : ∀ x ∈ xs, f x <+: g x) (heq : ∀ x ∈ xs.dropLast, f x = g x) :
    xs.flatMap f <+: xs.flatMap g ∧ xs.dropLast.flatMap g <+: xs.flatMap f := by
  rcases List.eq_nil_or_concat xs with rfl | ⟨init, x, rfl⟩
  · exact ⟨List.prefix_rfl, List.prefix_rfl⟩
  · rw [List.concat_eq_append] at hle heq ⊢
    rw [List.dropLast_concat] at heq ⊢
    have hinit : init.flatMap f = init.flatMap g := List.flatMap_congr heq
    rw [List.flatMap_append, List.flatMap_append, hinit, List.flatMap_singleton,
      List.flatMap_singleton]
    have hx : x ∈ init ++ [x] := List.mem_append_right init (List.mem_singleton_self x)
    exact ⟨(List.prefix_append_right_inj _).mpr (hle x hx), List.prefix_append ..⟩

/-- How an agent carries out a block of its reply, in a dispatch that begins in `world` and ends in
`s`. An errand is settled at the moment at which its block has its turn: it records one action, with
the outcome of the call that is made for it, if there is one. Nothing else records the action of an
errand or makes a call. -/
structure CarriedOut (env : Environment σ) (world : σ) (s : RunState σ) (agent : Agent)
    (reply : String) (x : Deed σ) : Prop where
  block : x.block ∈ (Reply.parse reply).blocks
  moment : ∃ earlier later : Ledger, s.ledger = earlier ++ x.ledger ++ later ∧
    x.before.world = replay env earlier.entries world
  errand : ∀ e, x.block.errand? = some e → ∃ service outcome calls cancels ms,
    Settles env agent x.before e service outcome calls cancels ∧
      x.ledger = settled (e.action agent service outcome ms) calls cancels
  other : x.block.errand? = none → x.ledger.errands = [] ∧ x.ledger.calls = []

/-- What a dispatch of these visits, begun in `world`, reports of its errands. All that is recorded
and called is recorded and called by its deeds, in their order. -/
structure Executed (env : Environment σ) (world : σ) (vs : List (Visit σ))
    (report : Dispatcher.Report σ) : Prop where
  replies : report.state.journal.filterMap Entry.reply? = allReplies vs
  errors : report.state.parseErrors = (allReplies vs).flatMap fun r => (Reply.parse r).errors
  result : ∀ result, report.outcome = .ok result →
    result.actions = report.state.actions ∧ result.parseErrors = report.state.parseErrors
  inOrder : report.state.actions.filterMap Action.errand? <+:
    (allReplies vs).flatMap fun r => (Reply.parse r).errands
  lacksOfLast : ((allReplies vs).dropLast.flatMap fun r => (Reply.parse r).errands) <+:
    report.state.actions.filterMap Action.errand?
  complete : (∀ result, report.outcome = .ok result → result.stopReason ≠ .cancelled) →
    report.state.actions.filterMap Action.errand? =
      (allReplies vs).flatMap fun r => (Reply.parse r).errands
  recorded : (report.state.actions.filter fun a => a.kind ≠ .delegation) =
    (allDeeds vs).flatMap fun x => x.ledger.errands
  called : report.state.journal.filter Entry.isCall = (allDeeds vs).flatMap fun x => x.ledger.calls
  carriedOut : ∀ v ∈ vs, ∀ t ∈ v.turns, ∀ x ∈ t.deeds,
    CarriedOut env world report.state v.agent t.reply x

section Courses

variable {d : Dispatcher σ} {pad : Scratchpad} {message : String} {hint : Option String}
  {vs : List (Visit σ)} {report : Dispatcher.Report σ} {world : σ} {cancelled : Bool}
  {telemetry : Option Telemetry}

theorem Course.done_eq (h : Course d pad message hint s vs report) {t : Turn σ}
    (ht : t ∈ allTurns vs) (hs : t.progress.stopped = false) :
    t.done = (Reply.parse t.reply).errands := by
  obtain ⟨_, _, _, taken⟩ := h.taken_of_mem ht
  exact taken.done_eq hs

/-- The errands recorded are those carried out in the turns. -/
theorem Course.recorded
    (h : Course d pad message hint (.start world cancelled telemetry) vs report) :
    report.state.actions.filterMap Action.errand? = (allTurns vs).flatMap Turn.done := by
  have herrands : report.state.actions.filterMap Action.errand? =
      report.state.ledger.errands.filterMap Action.errand? := by
    rw [Ledger.errands, List.filterMap_filter]
    congr 1
    funext a
    by_cases hk : a.kind = .delegation <;> simp [Action.errand?, hk]
  rw [herrands, h.errands, allDeeds, List.flatMap_assoc, List.filterMap_flatMap]
  refine List.flatMap_congr fun t ht => ?_
  obtain ⟨v, _, _, taken⟩ := h.taken_of_mem ht
  rw [← taken.errands, Turn.errands_ledger]

/-- They are the first of those that the replies ask for, and at most the last reply lacks some. -/
theorem Course.errands_isPrefix
    (h : Course d pad message hint (.start world cancelled telemetry) vs report) :
    report.state.actions.filterMap Action.errand? <+:
        ((allReplies vs).flatMap fun r => (Reply.parse r).errands) ∧
      ((allReplies vs).dropLast.flatMap fun r => (Reply.parse r).errands) <+:
        report.state.actions.filterMap Action.errand? := by
  have hle : ∀ t ∈ allTurns vs, t.done <+: (Reply.parse t.reply).errands := by
    intro t ht
    obtain ⟨_, _, _, taken⟩ := h.taken_of_mem ht
    exact taken.done_isPrefix
  have heq : ∀ t ∈ (allTurns vs).dropLast, t.done = (Reply.parse t.reply).errands := by
    intro t ht
    exact h.done_eq ((List.dropLast_sublist _).subset ht) (h.last_of_stopped.1 t ht)
  rw [h.recorded, allReplies, ← List.map_dropLast, List.flatMap_map, List.flatMap_map]
  exact flatMap_isPrefix hle heq

/-- Unless the result is cancelled, none is lacking. -/
theorem Course.errands_eq
    (h : Course d pad message hint (.start world cancelled telemetry) vs report)
    (hr : ∀ result, report.outcome = .ok result → result.stopReason ≠ .cancelled) :
    report.state.actions.filterMap Action.errand? =
      (allReplies vs).flatMap fun r => (Reply.parse r).errands := by
  rw [h.recorded, allReplies, List.flatMap_map]
  refine List.flatMap_congr fun t ht => h.done_eq ht ?_
  cases hs : t.progress.stopped with
  | false => rfl
  | true =>
    obtain ⟨result, ho, hc⟩ := h.last_of_stopped.2 t ht hs
    exact absurd hc (hr result ho)

/-- A result tells the actions and the block errors of the state. -/
theorem Course.told (h : Course d pad message hint s vs report) :
    ∀ result, report.outcome = .ok result →
      result.actions = report.state.actions ∧ result.parseErrors = report.state.parseErrors := by
  intro result ho
  cases h with
  | unrouted hr => cases ho
  | failed hr tours => cases ho
  | answered hr tours =>
    obtain rfl := Except.ok.inj ho
    exact ⟨rfl, rfl⟩

theorem Course.carriedOut
    (h : Course d pad message hint (.start world cancelled telemetry) vs report) :
    ∀ v ∈ vs, ∀ t ∈ v.turns, ∀ x ∈ t.deeds,
      CarriedOut d.env world report.state v.agent t.reply x := by
  intro v hv t ht x hx
  obtain ⟨hdone, hblock⟩ := h.done_of_mem hv ht hx
  obtain ⟨earlier, later, hbefore, hdeed, hafter⟩ := h.passes v hv t ht x hx
  have hledger : report.state.ledger = earlier ++ x.ledger ++ later := by
    rw [hafter.ledger, hdeed.ledger, hbefore.ledger, RunState.ledger_start, Ledger.blank_append]
  refine ⟨hblock, ⟨earlier, later, hledger, hbefore.world⟩, fun e he => hdone.settles he, ?_⟩
  intro he
  exact ⟨(hdone.aside he).errands, (hdone.aside he).calls⟩

end Courses

/-- The errands of the replies of a dispatch are carried out in order, once each and completely,
unless it is cancelled; then only errands of the last reply are left out. An errand is at most one
call, and none if it is denied, if its backend is missing, or if the work has been cancelled between
the turn of its block and the run of its tool. -/
theorem handle_executed (d : Dispatcher σ) (pad : Scratchpad) (message : String)
    (hint : Option String) (world : σ) (cancelled : Bool) (telemetry : Option Telemetry) :
    let report := d.handle pad message hint (.start world cancelled telemetry)
    ∃ vs : List (Visit σ),
      Course d pad message hint (.start world cancelled telemetry) vs report ∧
        Executed d.env world vs report := by
  intro report
  obtain ⟨vs, course⟩ := handle_course d pad message hint (.start world cancelled telemetry)
  have hprefix := course.errands_isPrefix
  refine ⟨vs, course, ?_⟩
  constructor
  · rw [← Ledger.replies_state]
    exact course.replies
  · exact course.errors
  · exact course.told
  · exact hprefix.1
  · exact hprefix.2
  · exact course.errands_eq
  · exact course.errands
  · rw [← Ledger.calls_state]
    exact course.calls
  · exact course.carriedOut

/-- The entry tells the start of an action. -/
def Entry.isStart : Entry → Bool
  | .event (.actionStart ..) => true
  | _ => false

/-- The dispatcher whose work is cancelled as soon as it has told the start of an action. -/
def calledOff (d : Dispatcher σ) : Dispatcher σ :=
  { d with env := { d.env with interrupts := fun _ journal => journal.any Entry.isStart } }

/-- The configuration of an agent with one tool and one turn. -/
def sentryConfig : AgentConfig :=
  { AgentConfig.new "sentry" with tools := ["look"], maxTurns := 1 }

/-- A tool that always sees the same. -/
def lookTool : Tool Unit where
  name := "look"
  definition := ⟨"look", "", .null⟩
  execute := fun _ _ world => .pure (.success "seen") world
  humanize := Tool.plainSummary "look"

/-- A dispatcher with that agent, whose model always asks for the tool. -/
def sentry : Dispatcher Unit where
  env :=
    { model := fun _ =>
        ⟨"", "", fun _ _ world => .pure ⟨.ok (ToolCall.toFenced ⟨"look", []⟩), none⟩ world⟩
      tools := [("look", lookTool)]
      services := []
      now := fun _ => 0 }
  router := ⟨[("sentry", ⟨sentryConfig, "", 0⟩)], "sentry", Routing.bestAgent⟩
  maxDepth := 3

/-- A tool that is declared and there need not run for the action that is recorded: if the work is
cancelled just before, the action fails as cancelled without a call. -/
theorem handle_refuses_tool :
    let report := (calledOff sentry).handle .empty "go" none (.start () false none)
    "look" ∈ sentryConfig.tools ∧ ((calledOff sentry).env.tools.get? "look").isSome = true ∧
      report.state.journal.filterMap Entry.reply? = [ToolCall.toFenced ⟨"look", []⟩] ∧
      report.state.actions.map (fun a => (a.kind, a.name, a.outcome)) =
        [(.tool, "look", .failed .cancelled)] ∧
      report.state.journal.filter Entry.isCall = [] := by
  refine ⟨by decide, rfl, by decide +kernel, by decide +kernel, ?_⟩
  exact List.isEmpty_iff.mp (by decide +kernel)

end Errands

end HomeAgents.Dispatch
