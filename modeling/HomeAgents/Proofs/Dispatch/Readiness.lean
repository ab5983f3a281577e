import HomeAgents.Proofs.Agent.Construction
import HomeAgents.Proofs.Dispatch.Agreement
import HomeAgents.Proofs.Dispatch.Execution
import HomeAgents.Proofs.Dispatch.Offers

/-!
# Agents whose backends are there

Agents are built only of configurations whose tools and services are all registered. So a dispatcher
of such agents finds the backend of everything that it allows: an errand is denied, or its backend
is called, unless the work has been cancelled just before a tool could run.
-/

namespace HomeAgents

open Dispatch

variable {σ : Type} {env : Environment σ} {agent : Agent} {tools : ToolRegistry σ}
  {services : ServiceRegistry σ}

/-- Where no declared name is missing, every declared name has an entry. -/
theorem Sorted.isSome_find?_of_none_missing {α : Type} {declared : List String} {m : Sorted α}
    (h : declared.find? (fun name => !(names m).contains name) = none) :
    ∀ name ∈ declared, (find? name m).isSome = true := by
  intro name hname
  have hcontained := List.find?_eq_none.mp h name hname
  rw [Bool.not_eq_true, Bool.not_eq_false', List.contains_iff_mem] at hcontained
  exact Option.isSome_iff_ne_none.mpr fun hnone =>
    lookup_eq_none_iff_not_mem.mp hnone hcontained

namespace Agent

/-- Every tool and every service that the agent declares is registered. -/
structure Ready (tools : ToolRegistry σ) (services : ServiceRegistry σ) (a : Agent) : Prop where
  tools : ∀ tool ∈ a.config.tools, (tools.get? tool).isSome = true
  services : ∀ service ∈ a.config.services, (services.get? service).isSome = true

/-- An agent of a valid configuration is ready. -/
theorem ready_ofConfig {c : AgentConfig}
    (h : c.problem? (Sorted.names tools) (Sorted.names services) = none) :
    (ofConfig tools c).Ready tools services := by
  simp only [AgentConfig.problem?, Option.orElse_eq_orElse, Option.orElse_eq_or,
    Option.or_eq_none_iff] at h
  obtain ⟨-, htools, hservices⟩ := h
  exact ⟨Sorted.isSome_find?_of_none_missing (Option.map_eq_none_iff.mp htools),
    Sorted.isSome_find?_of_none_missing (Option.map_eq_none_iff.mp hservices)⟩

theorem buildAll_ready {configs : List AgentConfig} {agents : List Agent}
    (h : buildAll configs tools services = .ok agents) : ∀ a ∈ agents, a.Ready tools services := by
  obtain ⟨hvalid, rfl⟩ := buildAll_eq_ok.mp h
  intro a ha
  obtain ⟨c, hc, rfl⟩ := List.mem_map.mp ha
  exact ready_ofConfig (hvalid c (AgentConfig.mem_byName.mp hc))

/-- How long an agent waits has nothing to do with its backends. -/
theorem Ready.withTimeout {a : Agent} (h : a.Ready tools services) (ms : Nat) :
    Ready tools services { a with timeoutMs := ms } :=
  ⟨h.tools, h.services⟩

end Agent

/-- The agent would try this errand, but there is no backend for it. -/
def Errand.Misses (env : Environment σ) (agent : Agent) (e : Errand) : Prop :=
  (e.kind = .tool ∧ e.name ∈ agent.config.tools ∧ env.tools.get? e.name = none) ∨
    (e.kind = .command ∧ ∃ service, agent.config.serviceFor e.name = some service ∧
      env.services.get? service = none)

theorem Agent.Ready.not_misses (h : agent.Ready env.tools env.services) (e : Errand) :
    ¬ e.Misses env agent := by
  rintro (⟨_, hd, hnone⟩ | ⟨_, service, hd, hnone⟩)
  · have hsome := h.tools _ hd
    rw [hnone] at hsome
    cases hsome
  · have hsome := h.services service (AgentConfig.serviceFor_eq_some.mp hd).2
    rw [hnone] at hsome
    cases hsome

/-- The errand asks for a tool that the agent declares, but from this state on the work is cancelled
before the tool can run. -/
def Errand.Refused (env : Environment σ) (agent : Agent) (s : RunState σ) (e : Errand) : Prop :=
  e.kind = .tool ∧ e.name ∈ agent.config.tools ∧
    (agent.beginTool e.name e.arguments s).interrupted env = true

/-- An errand whose backend is there is denied, refused or called. -/
theorem Settles.denied_refused_or_called {s : RunState σ} {e : Errand} {service : Option String}
    {outcome : Outcome} {calls : List Entry} {cancels : Bool}
    (h : Settles env agent s e service outcome calls cancels) (hm : ¬ e.Misses env agent) :
    (service = none ∧ outcome = .failed (.capabilityDenied agent.name e.kind e.name) ∧
      calls = [] ∧ cancels = false) ∨
    (e.Refused env agent s ∧ service = none ∧ outcome = .failed .cancelled ∧ calls = [] ∧
      cancels = true) ∨
    ∃ call, calls = [call] := by
  cases h with
  | toolDenied hd | commandDenied hd => exact .inl ⟨rfl, rfl, rfl, rfl⟩
  | toolUnknown hd hr => exact absurd (.inl ⟨rfl, hd, hr⟩) hm
  | toolRefused hd hr hi => exact .inr (.inl ⟨⟨rfl, hd, hi⟩, rfl, rfl, rfl, rfl⟩)
  | unregistered hd hr => exact absurd (.inr ⟨rfl, _, hd, hr⟩) hm
  | toolRun | serviceCall => exact .inr (.inr ⟨_, rfl⟩)

/-- No service says that it is not registered: its failures begin otherwise. -/
theorem ServiceError.message_ne (e : ServiceError) : e.message ≠ "not registered" := by
  intro h
  delta message at h
  cases e with
  | unsupportedAction service action =>
    have hhead := congrArg (fun text => text.toList.head?) h
    simp at hhead
  | backend reason =>
    have hhead := congrArg (fun text => text.toList.head?) h
    simp at hhead

namespace Dispatch

/-- How an agent deals with an errand: it is denied, it is refused because the work has been
cancelled since, or it is one call of its backend, whose answer is the outcome. -/
inductive Served (env : Environment σ) (agent : Agent) (x : Deed σ) (e : Errand) : Prop
  | denied {ms : Nat}
      (hledger : x.ledger = settled
        (e.action agent none (.failed (.capabilityDenied agent.name e.kind e.name)) ms) [] false) :
      Served env agent x e
  | refused {ms : Nat} (hrefused : e.Refused env agent x.before)
      (hledger : x.ledger = settled (e.action agent none (.failed .cancelled) ms) [] true) :
      Served env agent x e
  | called {service : Option String} {outcome : Outcome} {call : Entry} {cancels : Bool} {ms : Nat}
      (hsettles : Settles env agent x.before e service outcome [call] cancels)
      (hledger : x.ledger = settled (e.action agent service outcome ms) [call] cancels) :
      Served env agent x e

theorem Deed.Done.served {message : String} {x : Deed σ} {e : Errand}
    (h : x.Done env agent message) (he : x.block.errand? = some e) (hm : ¬ e.Misses env agent) :
    Served env agent x e := by
  obtain ⟨service, outcome, calls, cancels, ms, hsettles, hledger⟩ := h.settles he
  rcases hsettles.denied_refused_or_called hm with
    ⟨rfl, rfl, rfl, rfl⟩ | ⟨hrefused, rfl, rfl, rfl, rfl⟩ | ⟨call, rfl⟩
  · exact .denied hledger
  · exact .refused hrefused hledger
  · exact .called hsettles hledger

/-- What is recorded of such an errand does not blame a service that is not registered. -/
theorem Served.outcome_ne {x : Deed σ} {e : Errand} (h : Served env agent x e) :
    ∀ a ∈ x.ledger.actions, ∀ service, a.outcome ≠ .failed (.service service "not registered") := by
  intro a ha service hout
  cases h with
  | denied hledger | refused _ hledger =>
    rw [hledger] at ha
    obtain rfl := List.mem_singleton.mp ha
    cases hout
  | @called _ outcome call cancels ms hsettles hledger =>
    rw [hledger] at ha
    obtain rfl := List.mem_singleton.mp ha
    obtain rfl : outcome = _ := hout
    generalize hfailed : Outcome.failed (.service service "not registered") = outcome at hsettles
    cases hsettles with
    | @toolRun tool _ _ answer =>
      rw [ToolResult.outcome] at hfailed
      split at hfailed <;> cases hfailed
    | @serviceCall _ _ _ _ answer =>
      cases hv : answer.value with
      | ok response =>
        rw [hv] at hfailed
        cases hfailed
      | error said =>
        rw [hv, Service.outcome] at hfailed
        injection hfailed with hfailed
        injection hfailed with _ hsaid
        exact said.message_ne hsaid.symm

section Courses

variable {d : Dispatcher σ} {pad : Scratchpad} {message : String} {hint : Option String}
  {vs : List (Visit σ)} {report : Dispatcher.Report σ} {world : σ} {cancelled : Bool}
  {telemetry : Option Telemetry}

theorem Course.served {s : RunState σ} (h : Course d pad message hint s vs report)
    (hready : ∀ e ∈ d.router.agents, e.2.Ready d.env.tools d.env.services) :
    ∀ v ∈ vs, ∀ t ∈ v.turns, ∀ x ∈ t.deeds, ∀ e, x.block.errand? = some e →
      ¬ e.Misses d.env v.agent ∧ Served d.env v.agent x e := by
  intro v hv t ht x hx e he
  have hagent := h.agent_of_mem (P := fun a => a.Ready d.env.tools d.env.services) hready v hv
  have hm := hagent.not_misses e
  exact ⟨hm, (h.done_of_mem hv ht hx).1.served he hm⟩

/-- Every action that is no hand-over was recorded for an errand. -/
theorem Course.deed_of_errand
    (h : Course d pad message hint (.start world cancelled telemetry) vs report) {a : Action}
    (ha : a ∈ report.state.actions) (hk : a.kind ≠ .delegation) :
    ∃ v ∈ vs, ∃ t ∈ v.turns, ∃ x ∈ t.deeds, ∃ e, x.block.errand? = some e ∧
      x.Done d.env v.agent v.chain.message ∧ a ∈ x.ledger.actions := by
  have herrand : a ∈ report.state.ledger.errands :=
    List.mem_filter.mpr ⟨ha, decide_eq_true hk⟩
  -- so it stands in the ledger of a single deed
  rw [h.errands] at herrand
  obtain ⟨x, hx, hax⟩ := List.mem_flatMap.mp herrand
  obtain ⟨t, ht, hxt⟩ := List.mem_flatMap.mp hx
  obtain ⟨v, hv, htv⟩ := List.mem_flatMap.mp ht
  have hdone := (h.done_of_mem hv htv hxt).1
  cases he : x.block.errand? with
  | none =>
    rw [(hdone.aside he).errands] at hax
    cases hax
  | some e => exact ⟨v, hv, t, htv, x, hxt, e, he, hdone, (List.mem_filter.mp hax).1⟩

theorem Course.outcome_ne
    (h : Course d pad message hint (.start world cancelled telemetry) vs report)
    (hready : ∀ e ∈ d.router.agents, e.2.Ready d.env.tools d.env.services) :
    ∀ a ∈ report.state.actions, a.kind ≠ .delegation →
      ∀ service, a.outcome ≠ .failed (.service service "not registered") := by
  intro a ha hk
  obtain ⟨v, hv, t, ht, x, hx, e, he, -, hax⟩ := h.deed_of_errand ha hk
  exact (h.served hready v hv t ht x hx e he).2.outcome_ne a hax

end Courses

/-- A dispatcher whose agents were built together, of its own tools and services, never misses a
backend, whatever its model asks for: every errand is denied, called, or refused because the work
has been cancelled. How long an agent waits may have been changed since. -/
theorem handle_ready (d : Dispatcher σ) (configs : List AgentConfig) (built : List Agent)
    (hbuilt : Agent.buildAll configs d.env.tools d.env.services = .ok built)
    (hagents : ∀ e ∈ d.router.agents, ∃ a ∈ built, e.2 = { a with timeoutMs := e.2.timeoutMs })
    (pad : Scratchpad) (message : String) (hint : Option String) (world : σ) (cancelled : Bool)
    (telemetry : Option Telemetry) :
    let report := d.handle pad message hint (.start world cancelled telemetry)
    ∃ vs : List (Visit σ),
      Course d pad message hint (.start world cancelled telemetry) vs report ∧
      report.state.journal.filterMap Entry.reply? = allReplies vs ∧
      report.state.journal.filter Entry.isCall =
        (allDeeds vs).flatMap (fun x => x.ledger.calls) ∧
      (∀ v ∈ vs, ∀ t ∈ v.turns, ∀ x ∈ t.deeds, ∀ e, x.block.errand? = some e →
        ¬ e.Misses d.env v.agent ∧ Served d.env v.agent x e) ∧
      ∀ a ∈ report.state.actions, a.kind ≠ .delegation →
        ∀ service, a.outcome ≠ .failed (.service service "not registered") := by
  intro report
  obtain ⟨vs, course⟩ := handle_course d pad message hint (.start world cancelled telemetry)
  have hready : ∀ e ∈ d.router.agents, e.2.Ready d.env.tools d.env.services := by
    intro e he
    obtain ⟨a, ha, hea⟩ := hagents e he
    rw [hea]
    exact (Agent.buildAll_ready hbuilt a ha).withTimeout _
  refine ⟨vs, course, ?_, ?_, course.served hready, course.outcome_ne hready⟩
  · rw [← Ledger.replies_state]
    exact course.replies
  · rw [← Ledger.calls_state]
    exact course.calls

/-- The configuration of an agent with one tool and one action. -/
def butlerConfig : AgentConfig :=
  { AgentConfig.new "butler" with
    tools := ["look"], services := ["lights"], commands := [("dim", "lights")], maxTurns := 1 }

def butlerTools : ToolRegistry Unit := [("look", parrot "look")]

def butlerServices : ServiceRegistry Unit := [("lights", Service.dryRun "lights" [])]

/-- The agent as it is built. -/
def butlerAgent : Agent :=
  ⟨butlerConfig, butlerConfig.systemPromptText butlerTools, Agent.defaultTimeoutMs⟩

/-- A dispatcher of that agent, whose model always gives the same reply. -/
def butler (reply : String) : Dispatcher Unit where
  env :=
    { model := fun _ => ⟨"", "", fun _ _ world => .pure ⟨.ok reply, none⟩ world⟩
      tools := butlerTools
      services := butlerServices
      now := fun _ => 0 }
  router := ⟨[("butler", { butlerAgent with timeoutMs := 5000 })], "butler", Routing.bestAgent⟩
  maxDepth := 3

theorem buildAll_butler :
    Agent.buildAll [butlerConfig] butlerTools butlerServices = .ok [butlerAgent] := by
  have hvalid : butlerConfig.basicProblem? = none := by decide +kernel
  have hservices : butlerConfig.serviceProblem? (Sorted.names butlerServices) = none := rfl
  have hchecked : Agent.buildChecked butlerTools butlerServices butlerConfig =
      .ok butlerAgent := by
    rw [Agent.buildChecked, hservices]
    dsimp only
    rw [Agent.build, hvalid]
    rfl
  rw [Agent.buildAll, List.mergeSort_singleton, List.mapM_cons, hchecked]
  rfl

theorem router_butler (reply : String) : ∀ e ∈ (butler reply).router.agents,
    ∃ a ∈ [butlerAgent], e.2 = { a with timeoutMs := e.2.timeoutMs } := by
  intro e he
  obtain rfl := List.mem_singleton.mp he
  exact ⟨butlerAgent, List.mem_singleton_self butlerAgent, rfl⟩

/-- A reply that asks for a tool which the agent does not have, and for its action. -/
def shellReply : String :=
  ToolCall.toFenced ⟨"shell", []⟩ ++ Command.toFenced ⟨"dim", []⟩

/-- The tool is denied, and the action is a call of its service. -/
theorem handle_ready_butler :
    Agent.buildAll [butlerConfig] butlerTools butlerServices = .ok [butlerAgent] ∧
      (∀ e ∈ (butler shellReply).router.agents,
        ∃ a ∈ [butlerAgent], e.2 = { a with timeoutMs := e.2.timeoutMs }) ∧
      ∃ vs : List (Visit Unit),
        Course (butler shellReply) .empty "go" none (.start () false none) vs
          ((butler shellReply).handle .empty "go" none (.start () false none)) ∧
        (allReplies vs).length = 1 ∧ ((allDeeds vs).flatMap fun x => x.ledger.calls).length = 1 ∧
        ∀ v ∈ vs, ∀ t ∈ v.turns, ∀ x ∈ t.deeds, ∀ e, x.block.errand? = some e →
          Served (butler shellReply).env v.agent x e := by
  obtain ⟨vs, course, hreplies, hcalls, hserved, _⟩ :=
    handle_ready (butler shellReply) [butlerConfig] [butlerAgent] buildAll_butler
      (router_butler shellReply) .empty "go" none () false none
  refine ⟨buildAll_butler, router_butler shellReply, vs, course, ?_, ?_, ?_⟩
  · rw [← hreplies]
    decide +kernel
  · rw [← hcalls]
    decide +kernel
  · exact fun v hv t ht x hx e he => (hserved v hv t ht x hx e he).2

/-- The tool of such an agent is neither denied nor called if the work is cancelled just before it
could run. -/
theorem butler_refuses_tool :
    let d := calledOff (butler (ToolCall.toFenced ⟨"look", []⟩))
    let report := d.handle .empty "go" none (.start () false none)
    Agent.buildAll [butlerConfig] d.env.tools d.env.services = .ok [butlerAgent] ∧
      (∀ e ∈ d.router.agents, ∃ a ∈ [butlerAgent], e.2 = { a with timeoutMs := e.2.timeoutMs }) ∧
      report.state.journal.filterMap Entry.reply? = [ToolCall.toFenced ⟨"look", []⟩] ∧
      report.state.actions.map (fun a => (a.kind, a.name, a.outcome)) =
        [(.tool, "look", .failed .cancelled)] ∧
      report.state.journal.filter Entry.isCall = [] := by
  intro d report
  have hrouter := router_butler (ToolCall.toFenced ⟨"look", []⟩)
  refine ⟨buildAll_butler, hrouter, by decide +kernel, by decide +kernel, ?_⟩
  exact List.isEmpty_iff.mp (by decide +kernel)

end Dispatch

end HomeAgents
