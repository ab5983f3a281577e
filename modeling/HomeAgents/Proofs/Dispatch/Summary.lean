import HomeAgents.Proofs.Dispatch.Delegation
import HomeAgents.Proofs.Dispatch.Prose
import HomeAgents.Proofs.Routing.Selection

/-!
# What a result tells

All that a result tells is of one visit, the last one: its texts, its tags and its agent. Only the
chain goes back to the agent that got the message first, and for each step of the chain there is one
action of a hand-over that succeeded, in the same order. For this the agents of the router have to
stand under their own names.
-/

namespace HomeAgents

variable {σ : Type}

/-- The hand-overs among some actions that succeeded: who handed over, and to whom. -/
def Action.takeovers (actions : List Action) : List (String × String) :=
  (actions.filter fun a => a.kind = .delegation ∧ a.outcome.isOk = true).map fun a =>
    (a.agent, a.name)

namespace Dispatch

variable {d : Dispatcher σ} {pad : Scratchpad} {message : String} {s s' : RunState σ}

theorem takeovers_handovers (l : Ledger) :
    Action.takeovers l.handovers = Action.takeovers l.actions := by
  rw [Action.takeovers, Ledger.handovers, List.filter_filter]
  simp [Action.takeovers, Bool.and_comm]

theorem takeovers_flatMap {α : Type} (f : α → List Action) (xs : List α) :
    Action.takeovers (xs.flatMap f) = xs.flatMap fun x => Action.takeovers (f x) := by
  rw [Action.takeovers, List.filter_flatMap, List.map_flatMap]
  rfl

/-- A denied hand-over does not succeed. -/
theorem takeovers_of_denied {agent : Agent} {cs : List Command} {actions : List Action}
    (h : List.Forall₂ (Denied agent message) cs actions) : Action.takeovers actions = [] := by
  induction h with
  | nil => rfl
  | cons hdenied _ ih =>
    obtain ⟨asked, _, rfl⟩ := hdenied
    exact ih

/-- A visit hands over successfully once if another agent takes over, and else never. -/
theorem Delegates.takeovers {v : Visit σ} {actions : List Action} {next : Option Chain}
    (h : Delegates d v actions next) (hrouter : d.router.Assembled) :
    Action.takeovers actions = next.toList.map fun chain => (v.agent.name, chain.agent.name) := by
  cases h with
  | denied hnest hdenied => exact takeovers_of_denied hdenied
  | dropped => rfl
  | decided hnest hfirst hasks hsettled hdecides =>
    cases hdecides with
    | refused | unknown => rfl
    | followed hlimit htarget hmessage =>
      rw [Option.toList_some, List.map_singleton, hrouter.name_eq htarget]
      rfl

/-- The successful hand-overs of some visits are the steps from each agent to the next. -/
theorem Tours.takeovers {depth : Nat} {chain : Chain} {vs : List (Visit σ)}
    {out : Except AgentError Ending} (h : Tours d pad depth chain s vs out s')
    (hrouter : d.router.Assembled) :
    Action.takeovers (vs.flatMap fun v => v.ledger.actions) =
      (vs.map fun v => v.agent.name).zip (vs.map fun v => v.agent.name).tail := by
  simp only [takeovers_flatMap, ← takeovers_handovers]
  induction h with
  | last made =>
    rw [List.flatMap_singleton, made.delegates.takeovers hrouter]
    rfl
  | @more v next vs out s' made rest ih =>
    rw [List.flatMap_cons, ih, made.delegates.takeovers hrouter]
    cases vs with
    | nil => cases rest.chain_head
    | cons w vs =>
      obtain rfl : w.chain = next := Option.some.inj rest.chain_head
      rfl

theorem Course.takeovers {hint : Option String} {vs : List (Visit σ)}
    {report : Dispatcher.Report σ} (h : Course d pad message hint s vs report)
    (hrouter : d.router.Assembled) :
    Action.takeovers (vs.flatMap fun v => v.ledger.actions) =
      (vs.map fun v => v.agent.name).zip (vs.map fun v => v.agent.name).tail := by
  cases h with
  | unrouted hr => rfl
  | failed hr tours | answered hr tours => exact tours.takeovers hrouter

/-- The agent that the router selects is the first one of the chain. -/
theorem Course.exists_first {hint : Option String} {vs : List (Visit σ)}
    {report : Dispatcher.Report σ} {result : AgentResult}
    (h : Course d pad message hint s vs report) (ho : report.outcome = .ok result) :
    ∃ agent, (d.router.select message hint).1 = .ok agent ∧
      result.delegationChain.head? = some agent.name := by
  have hnames := (h.result_eq ho).2
  cases h with
  | unrouted hr | failed hr tours => cases ho
  | @answered agent vs ending s' hr tours =>
    refine ⟨agent, hr, ?_⟩
    have hhead := congrArg (Option.map fun chain => chain.agent.name) tours.chain_head
    rw [hnames, List.head?_map, List.head?_eq_getElem?]
    rwa [Option.map_map] at hhead

theorem last_allReplies {vs : List (Visit σ)} {v : Visit σ} {t : Turn σ}
    (hv : vs.getLast? = some v) (ht : v.turns.getLast? = some t) :
    (allReplies vs).getLast? = some t.reply := by
  obtain ⟨earlier, rfl⟩ := List.getLast?_eq_some_iff.mp hv
  rw [allReplies, allTurns, List.flatMap_append, List.flatMap_singleton, List.getLast?_map,
    List.getLast?_append, ht]
  rfl

/-- A result describes a visit and its last turn, and how the dispatch came to that visit. -/
structure Describes (d : Dispatcher σ) (message : String) (hint : Option String) (v : Visit σ)
    (t : Turn σ) (result : AgentResult) : Prop where
  rawText : result.rawText = t.reply
  text : result.text = (proses v.turns).getLast?.getD ""
  tags : result.tags = Tag.ofText result.text
  agentName : result.agentName = v.agent.name
  last : result.delegationChain.getLast? = some result.agentName
  first : ∃ agent, (d.router.select message hint).1 = .ok agent ∧
    result.delegationChain.head? = some agent.name
  takeovers : Action.takeovers result.actions =
    result.delegationChain.zip result.delegationChain.tail

/-- Every result describes the last visit of its dispatch and the last reply of all. -/
theorem handle_describes (d : Dispatcher σ) (hrouter : d.router.Assembled) (pad : Scratchpad)
    (message : String) (hint : Option String) (world : σ) (cancelled : Bool)
    (telemetry : Option Telemetry) :
    let report := d.handle pad message hint (.start world cancelled telemetry)
    ∃ vs : List (Visit σ),
      Course d pad message hint (.start world cancelled telemetry) vs report ∧
      report.state.journal.filterMap Entry.reply? = allReplies vs ∧
      ∀ result, report.outcome = .ok result → ∃ v t,
        vs.getLast? = some v ∧ v.turns.getLast? = some t ∧
        (allReplies vs).getLast? = some t.reply ∧ Describes d message hint v t result := by
  intro report
  obtain ⟨vs, course⟩ := handle_course d pad message hint (.start world cancelled telemetry)
  refine ⟨vs, course, ?_, fun result ho => ?_⟩
  · rw [← Ledger.replies_state]
    exact course.replies
  obtain ⟨v, ending, hlast, _, hmade, hresult⟩ := course.exists_last ho
  obtain ⟨t, hturn, hraw, hchain, _⟩ := hmade.halts
  have hnames := (course.result_eq ho).2
  have hagent : result.agentName = v.agent.name := by
    rw [hresult, Ending.result, hchain]
    rfl
  have hactions : result.actions = vs.flatMap fun v => v.ledger.actions :=
    (course.told result ho).1.trans course.actions_eq
  refine ⟨v, t, hlast, hturn, last_allReplies hlast hturn, ?_, ?_, ?_, hagent, ?_, ?_, ?_⟩
  · rw [hresult]
    exact hraw
  · rw [hresult]
    exact hmade.text_eq
  · rw [hresult]
    rfl
  · rw [hnames, List.getLast?_map, hlast, hagent]
    rfl
  · exact course.exists_first ho
  · rw [hactions, hnames]
    exact course.takeovers hrouter

/-- One hand-over of the two agents succeeds and one is refused, and the result is of the second
agent. -/
theorem askers_describes :
    let report := askers.handle .empty "go" none (.start 0 false none)
    ∃ result, report.outcome = .ok result ∧ result.delegationChain = ["ping", "pong"] ∧
      result.agentName = "pong" ∧ Action.takeovers result.actions = [("ping", "pong")] ∧
      result.actions.length = 2 := by
  intro report
  have hmade : Router.withAgents "ping"
      [⟨askerConfig "ping", "", 0⟩, ⟨askerConfig "pong", "", 0⟩] = .ok askers.router := rfl
  have hchain : report.outcome.toOption.map AgentResult.delegationChain =
      some ["ping", "pong"] := by decide +kernel
  have hactions : report.outcome.toOption.map (fun result => result.actions.length) = some 2 := by
    decide +kernel
  obtain ⟨vs, _, _, hdescribes⟩ := handle_describes askers (Router.assembled_withAgents hmade)
    .empty "go" none 0 false none
  cases ho : report.outcome with
  | error e =>
    rw [ho] at hchain
    cases hchain
  | ok result =>
    rw [ho] at hchain hactions
    replace hchain : result.delegationChain = ["ping", "pong"] := Option.some.inj hchain
    obtain ⟨v, t, _, _, _, h⟩ := hdescribes result ho
    have hlast := h.last
    have htakeovers := h.takeovers
    rw [hchain] at hlast htakeovers
    exact ⟨result, rfl, hchain, (Option.some.inj hlast).symm, htakeovers,
      Option.some.inj hactions⟩

end Dispatch

end HomeAgents
