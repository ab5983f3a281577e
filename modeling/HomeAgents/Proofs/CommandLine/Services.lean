import HomeAgents.CommandLine.Household
import HomeAgents.Proofs.Dispatch.Delegation
import HomeAgents.Proofs.Dispatch.Readiness
import HomeAgents.Proofs.Routing.Selection

/-!
# The services of a household

A household has a service for each name that the house or a command table knows. The entries of all
tables are gathered by service, each action once. A service that no table knows has no actions at
all, and so it takes every one. In either case it takes what an agent may ask of it: a command is
denied to the agent or acknowledged by the service.
-/

namespace HomeAgents

variable {σ τ : Type}

/-- Services made of entries of different names are found where the entries are. -/
theorem ServiceRegistry.get?_ofList {α : Type} {m : Sorted α} (hm : m.Increasing)
    {f : String → α → Service σ} (hf : ∀ name value, (f name value).name = name) (name : String) :
    (ofList (m.map fun e => f e.1 e.2)).get? name = (Sorted.find? name m).map (f name) := by
  have hofList : ofList (m.map fun e => f e.1 e.2) =
      Sorted.ofList (m.map fun e => (e.1, f e.1 e.2)) := by
    rw [ofList, Sorted.ofList, List.foldl_map, List.foldl_map]
    simp only [register, hf]
  have hlookup (m : Sorted α) : List.lookup name (m.map fun e => (e.1, f e.1 e.2)) =
      (List.lookup name m).map (f name) := by
    induction m with
    | nil => rfl
    | cons e m ih =>
      rw [List.map_cons, Sorted.lookup_cons_eq_ite, Sorted.lookup_cons_eq_ite, ih]
      by_cases hname : name = e.1
      · rw [if_pos hname, if_pos hname, hname]
        rfl
      · rw [if_neg hname, if_neg hname]
  have hnodup : (m.map Prod.fst).Nodup :=
    List.pairwise_map.mpr (hm.imp fun hlt => ne_of_lt hlt)
  rw [get?, hofList, (Sorted.collects_ofList _).2, ← List.map_reverse, hlookup]
  exact congrArg _ (Ordered.find?_eq_of_perm hnodup (List.reverse_perm m) name)

/-- A service takes an action: it answers the call with a reply. -/
def Service.Accepts (b : Service σ) (action : String) (params : Members) (world : σ) : Prop :=
  ∃ reply, (b.call action params world).value = .ok reply

namespace CommandLine

variable {configs : List AgentConfig} {name action service : String}

/-- The table of some agent sends an action to a service. -/
def Documents (configs : List AgentConfig) (action service : String) : Prop :=
  ∃ c ∈ configs, (action, service) ∈ c.commands

/-! ### The actions of each service -/

section Gathering

open AgentConfig

variable {commands : List (String × String)}

/-- The services of the house and of some entries, with their actions. -/
def gather (commands : List (String × String)) : Sorted (List String) :=
  commands.foldl addAction (Sorted.ofList (houseServices.map fun name => (name, [])))

theorem gather_append_singleton (commands : List (String × String)) (e : String × String) :
    gather (commands ++ [e]) = addAction (gather commands) e := by
  rw [gather, List.foldl_append]
  rfl

theorem increasing_gather (commands : List (String × String)) : (gather commands).Increasing := by
  induction commands using List.reverseRecOn with
  | nil => exact (Sorted.collects_ofList _).1
  | append_singleton commands e ih =>
    rw [gather_append_singleton]
    exact ih.insert ..

/-- A service is there if the house has it or an entry names it, and it has the actions of its
entries, each once. -/
theorem find?_gather (commands : List (String × String)) (name : String) :
    Sorted.find? name (gather commands) =
      if name ∈ houseServices ∨ name ∈ servicesOf commands then
        some (actionsOf commands name).eraseDups
      else none := by
  induction commands using List.reverseRecOn with
  | nil =>
    have htable : Ordered.find? name (houseServices.reverse.map fun n => (n, [])) =
        if name ∈ houseServices.reverse then some ([] : List String) else none :=
      Ordered.find?_table name
    rw [gather, List.foldl_nil, (Sorted.collects_ofList _).2, ← List.map_reverse]
    simpa [servicesOf, actionsOf, Ordered.find?] using htable
  | append_singleton commands e ih =>
    rw [gather_append_singleton, addAction, Sorted.find?_insert, actionsOf_append_singleton]
    by_cases hname : name = e.2
    · subst hname
      have hbefore : (Sorted.find? e.2 (gather commands)).getD [] =
          (actionsOf commands e.2).eraseDups := by
        rw [ih]
        split
        next => rfl
        next h => rw [actionsOf_eq_nil (not_or.mp h).2]; rfl
      have hnamed : e.2 ∈ servicesOf (commands ++ [e]) :=
        mem_servicesOf.mpr ⟨e.1, List.mem_append_right _ (List.mem_singleton_self e)⟩
      rw [hbefore, if_pos rfl, if_pos rfl, if_pos (Or.inr hnamed),
        eraseDups_append_singleton]
      simp only [List.contains_iff_mem, List.mem_eraseDups]
    · have hnamed : name ∈ servicesOf (commands ++ [e]) ↔ name ∈ servicesOf commands := by
        simp [mem_servicesOf, Prod.ext_iff, hname]
      rw [if_neg hname, if_neg hname, ih]
      simp only [hnamed]

end Gathering

/-- The commands that some agents document. -/
def documented (configs : List AgentConfig) : List (String × String) :=
  configs.flatMap (·.commands)

theorem mem_documented :
    (action, service) ∈ documented configs ↔ Documents configs action service :=
  List.mem_flatMap

theorem mem_servicesOf_documented :
    service ∈ AgentConfig.servicesOf (documented configs) ↔
      ∃ action, Documents configs action service := by
  simp only [AgentConfig.mem_servicesOf, mem_documented]

/-- The actions that are documented for a service, each once. -/
def documentedActions (configs : List AgentConfig) (name : String) : List String :=
  (AgentConfig.actionsOf (documented configs) name).eraseDups

theorem mem_documentedActions :
    action ∈ documentedActions configs name ↔ Documents configs action name := by
  rw [documentedActions, List.mem_eraseDups, AgentConfig.mem_actionsOf, mem_documented]

/-- The service of a name is a dry run of the actions that are documented for it. -/
theorem get?_services (configs : List AgentConfig) (name : String) :
    (services configs : ServiceRegistry σ).get? name =
      if name ∈ houseServices ∨ name ∈ AgentConfig.servicesOf (documented configs) then
        some (.dryRun name (documentedActions configs name))
      else none := by
  have hfind := find?_gather (documented configs) name
  have hget : (services configs : ServiceRegistry σ).get? name =
      (Sorted.find? name (gather (documented configs))).map (Service.dryRun name) :=
    ServiceRegistry.get?_ofList (increasing_gather _) (fun _ _ => rfl) name
  rw [hget, hfind]
  split <;> rfl

theorem mem_names_services :
    name ∈ Sorted.names (services configs : ServiceRegistry σ) ↔
      name ∈ houseServices ∨ ∃ action, Documents configs action name := by
  have hfind : name ∉ Sorted.names (services configs : ServiceRegistry σ) ↔
      (services configs : ServiceRegistry σ).get? name = none :=
    Sorted.lookup_eq_none_iff_not_mem.symm
  rw [← not_iff_not, hfind, get?_services, ← mem_servicesOf_documented]
  simp

theorem dryRun_call (name : String) (actions : List String) (action : String) (params : Members)
    (world : σ) :
    ((Service.dryRun name actions).call action params world).cancels = false ∧
      ((Service.dryRun name actions).call action params world).value =
        if Service.dryRunAccepts actions action then .ok (Service.dryRunReply action)
        else .error (.unsupportedAction name action) := by
  by_cases h : Service.dryRunAccepts actions action = true
  · simp [Service.dryRun, h]
  · simp [Service.dryRun, h, Answer.pure]

/-- An action is taken if it is documented for the service, or if none is. -/
theorem dryRunAccepts_iff :
    Service.dryRunAccepts (documentedActions configs name) action = true ↔
      Documents configs action name ∨ ∀ other, ¬ Documents configs other name := by
  have hempty : documentedActions configs name = [] ↔ ∀ other, ¬ Documents configs other name := by
    simp only [List.eq_nil_iff_forall_not_mem, mem_documentedActions]
  rw [Service.dryRunAccepts, Bool.or_eq_true, List.isEmpty_iff, hempty, List.contains_iff_mem,
    mem_documentedActions, or_comm]

/-- A service that is there acknowledges an action or says that it does not support it. -/
theorem call_services {b : Service σ} (hb : (services configs).get? name = some b)
    (action : String) (params : Members) (world : σ) :
    (b.call action params world).cancels = false ∧
      ((b.call action params world).value = .ok (Service.dryRunReply action) ∧
          (Documents configs action name ∨ ∀ other, ¬ Documents configs other name) ∨
        (b.call action params world).value = .error (.unsupportedAction name action) ∧
          ¬ (Documents configs action name ∨ ∀ other, ¬ Documents configs other name)) := by
  rw [get?_services] at hb
  split at hb
  next =>
    obtain rfl := Option.some.inj hb
    obtain ⟨hcancels, hvalue⟩ :=
      dryRun_call name (documentedActions configs name) action params world
    refine ⟨hcancels, ?_⟩
    rw [hvalue, ← dryRunAccepts_iff]
    split
    next h => exact .inl ⟨rfl, h⟩
    next h => exact .inr ⟨rfl, h⟩
  next => cases hb

theorem accepts_services {b : Service σ} (hb : (services configs).get? name = some b)
    (action : String) (params : Members) (world : σ) :
    b.Accepts action params world ↔
      Documents configs action name ∨ ∀ other, ¬ Documents configs other name := by
  obtain ⟨-, ⟨hvalue, htaken⟩ | ⟨hvalue, hrefused⟩⟩ := call_services hb action params world
  · exact iff_of_true ⟨_, hvalue⟩ htaken
  · refine iff_of_false ?_ hrefused
    rintro ⟨reply, hreply⟩
    rw [hvalue] at hreply
    cases hreply

/-- The services of a registry are those that are expected, and they take what is documented. -/
structure Covers (configs : List AgentConfig) (registry : ServiceRegistry σ) : Prop where
  names : ∀ name, name ∈ Sorted.names registry ↔
    name ∈ houseServices ∨ ∃ action, Documents configs action name
  found : ∀ name ∈ Sorted.names registry, ∃ b, registry.get? name = some b ∧ b.name = name
  documented : ∀ name b, registry.get? name = some b → (∃ other, Documents configs other name) →
    ∀ action params world, b.Accepts action params world ↔ Documents configs action name
  undocumented : ∀ name b, registry.get? name = some b → (∀ other, ¬ Documents configs other name) →
    ∀ action params world, b.Accepts action params world
  refused : ∀ name b, registry.get? name = some b → ∀ action params world,
    ¬ b.Accepts action params world →
      (b.call action params world).value = .error (.unsupportedAction name action)

theorem covers_services (configs : List AgentConfig) :
    Covers configs (services configs : ServiceRegistry σ) where
  names _ := mem_names_services
  found := by
    intro name hname
    have hexpected := mem_names_services.mp hname
    rw [← mem_servicesOf_documented] at hexpected
    exact ⟨_, by rw [get?_services, if_pos hexpected], rfl⟩
  documented := by
    rintro name b hb ⟨other, hother⟩ action params world
    rw [accepts_services hb]
    exact or_iff_left fun hnone => hnone other hother
  undocumented := by
    intro name b hb hnone action params world
    rw [accepts_services hb]
    exact Or.inr hnone
  refused := by
    intro name b hb action params world hrefused
    obtain ⟨-, ⟨hvalue, -⟩ | ⟨hvalue, -⟩⟩ := call_services hb action params world
    · exact absurd ⟨_, hvalue⟩ hrefused
    · exact hvalue

/-! ### The dispatcher of a household -/

/-- A dispatcher of the agents of some configurations and of the services of these. How long an
agent waits may have been changed since it was built. -/
structure Serves (configs : List AgentConfig) (d : Dispatcher σ) : Prop where
  services : d.env.services = services configs
  agents : ∃ built, Agent.buildAll configs d.env.tools d.env.services = .ok built ∧
    ∀ e ∈ d.router.agents, ∃ a ∈ built, e.2 = { a with timeoutMs := e.2.timeoutMs }

section Opening

variable {s : Surroundings} {settings : Settings} {o : Outside τ} {d : Dispatcher (Premises τ)}

/-- The tools of a household. -/
def householdTools (s : Surroundings) (settings : Settings) (o : Outside τ) :
    ToolRegistry (Premises τ) :=
  House.tools (fun p => (o.glimpse p.outside).time) (·.files) (toolRoot s settings)

/-- A household opens if its client does, its agents can be built and one of them is the default. -/
theorem openDispatcher_eq_ok :
    openDispatcher s settings configs o = .ok d ↔
      ∃ client built router, openClient s settings o = .ok client ∧
        Agent.buildAll configs (householdTools s settings o) (services configs) = .ok built ∧
        Router.withAgents settings.dispatch.defaultAgent
          (built.map fun a => { a with timeoutMs := settings.timeoutSecs * 1000 }) = .ok router ∧
        d = {
          env :=
            { model := fun _ => client.model
              tools := householdTools s settings o
              services := services configs
              now := fun p => o.now p.outside
              offset := fun p => (o.glimpse p.outside).time.offset
              interrupts := fun p => (o.glimpse p.outside).stops }
          router := router
          maxDepth := settings.dispatch.maxDepth } := by
  constructor
  · intro h
    rw [openDispatcher] at h
    split at h
    next => cases h
    next client hclient =>
      dsimp only at h
      split at h
      next => cases h
      next router hrouter =>
        cases hbuilt : Agent.buildAll configs (householdTools s settings o) (services configs) with
        | error p =>
          rw [householdTools] at hbuilt
          rw [hbuilt] at hrouter
          cases hrouter
        | ok built =>
          rw [householdTools] at hbuilt
          rw [hbuilt] at hrouter
          exact ⟨client, built, router, hclient, rfl, hrouter, (Except.ok.inj h).symm⟩
  · rintro ⟨client, built, router, hclient, hbuilt, hrouter, rfl⟩
    rw [householdTools] at hbuilt
    simp only [openDispatcher, hclient, hbuilt, bind, Except.bind, hrouter]
    rfl

/-- The dispatcher of a household is of this kind. -/
theorem openDispatcher_serves (h : openDispatcher s settings configs o = .ok d) :
    Serves configs d := by
  obtain ⟨client, built, router, -, hbuilt, hrouter, rfl⟩ := openDispatcher_eq_ok.mp h
  refine ⟨rfl, built, hbuilt, fun e he => ?_⟩
  obtain ⟨hregisters, -⟩ := Router.withAgents_registers hrouter
  obtain ⟨a, ha, heq⟩ := List.mem_map.mp (hregisters.mem_iff.mp he).1
  exact ⟨a, ha, by rw [← heq]⟩

end Opening

theorem Serves.config_mem {d : Dispatcher σ} (h : Serves configs d) :
    ∀ e ∈ d.router.agents, e.2.config ∈ configs := by
  intro e he
  obtain ⟨built, hbuilt, hagents⟩ := h.agents
  obtain ⟨a, ha, hea⟩ := hagents e he
  obtain ⟨-, rfl⟩ := Agent.buildAll_eq_ok.mp hbuilt
  obtain ⟨c, hc, rfl⟩ := List.mem_map.mp ha
  rw [hea]
  exact AgentConfig.mem_byName.mp hc

/-! ### Commands to the services -/

open Dispatch

/-- A command of an agent's table goes to a service for which it is documented. -/
theorem documents_of_serviceFor {c : AgentConfig} (hc : c ∈ configs)
    (h : c.serviceFor action = some service) : Documents configs action service := by
  obtain ⟨hfind, -⟩ := AgentConfig.serviceFor_eq_some.mp h
  obtain ⟨front, back, hcommands, -⟩ := List.lookup_eq_some_iff.mp hfind
  refine ⟨c, hc, ?_⟩
  rw [hcommands]
  exact List.mem_append_right _ (List.mem_cons_self ..)

/-- How an agent deals with a command. The command is denied if the agent's table does not permit
it. Otherwise it is one call of its service, which acknowledges it. -/
inductive Met (agent : Agent) (x : Deed σ) (e : Errand) : Prop
  | denied {ms : Nat} (hd : agent.config.serviceFor e.name = none)
      (hledger : x.ledger = settled
        (e.action agent none (.failed (.capabilityDenied agent.name .command e.name)) ms)
        [] false) :
      Met agent x e
  | acknowledged {service : String} {ms : Nat}
      (hd : agent.config.serviceFor e.name = some service)
      (hledger : x.ledger = settled
        (e.action agent (some service) (.completed (Service.dryRunReply e.name).text) ms)
        [.serviceCall agent.name service e.name e.arguments] false) :
      Met agent x e

section Dealing

variable {env : Environment σ} {agent : Agent} {message : String} {x : Deed σ} {e : Errand}

/-- The service of an action that an agent is permitted is there, and it acknowledges the action. -/
theorem acknowledges_permitted (henv : env.services = services configs)
    (hc : agent.config ∈ configs) (hd : agent.config.serviceFor action = some service) :
    ∃ b, env.services.get? service = some b ∧ ∀ params world,
      (b.call action params world).cancels = false ∧
        (b.call action params world).value = .ok (Service.dryRunReply action) := by
  have hdocuments := documents_of_serviceFor hc hd
  have hnamed : service ∈ Sorted.names env.services := by
    rw [henv]
    exact mem_names_services.mpr (Or.inr ⟨action, hdocuments⟩)
  rw [henv] at hnamed ⊢
  obtain ⟨b, hb, -⟩ := (covers_services configs).found service hnamed
  refine ⟨b, hb, fun params world => ?_⟩
  obtain ⟨hcancels, ⟨hvalue, -⟩ | ⟨-, hrefused⟩⟩ := call_services hb action params world
  · exact ⟨hcancels, hvalue⟩
  · exact absurd (Or.inl hdocuments) hrefused

theorem met_of_done (henv : env.services = services configs) (hc : agent.config ∈ configs)
    (h : x.Done env agent message) (he : x.block.errand? = some e) (hk : e.kind = .command) :
    Met agent x e := by
  obtain ⟨service, outcome, calls, cancels, ms, hsettles, hledger⟩ := h.settles he
  cases hsettles with
  | toolDenied | toolUnknown | toolRefused | toolRun => cases hk
  | commandDenied hd => exact .denied hd hledger
  | unregistered hd hr =>
    obtain ⟨b, hb, -⟩ := acknowledges_permitted henv hc hd
    rw [hr] at hb
    cases hb
  | @serviceCall _ _ params _ _ hd hr ha =>
    obtain ⟨b, hb, hanswer⟩ := acknowledges_permitted henv hc hd
    obtain rfl := Option.some.inj (hr.symm.trans hb)
    obtain ⟨hcancels, hvalue⟩ := hanswer params x.before.world
    rw [ha] at hcancels hvalue
    rw [hcancels, hvalue] at hledger
    exact .acknowledged hd hledger

/-- What is recorded of an errand does not blame a service. -/
theorem deed_outcome_ne (henv : env.services = services configs) (hc : agent.config ∈ configs)
    (h : x.Done env agent message) (he : x.block.errand? = some e) :
    ∀ a ∈ x.ledger.actions, ∀ service reason, a.outcome ≠ .failed (.service service reason) := by
  intro a ha service reason hout
  by_cases hk : e.kind = .command
  · cases met_of_done henv hc h he hk with
    | denied _ hledger | acknowledged _ hledger =>
      rw [hledger] at ha
      obtain rfl := List.mem_singleton.mp ha
      cases hout
  · obtain ⟨asked, outcome, calls, cancels, ms, hsettles, hledger⟩ := h.settles he
    rw [hledger] at ha
    obtain rfl := List.mem_singleton.mp ha
    obtain rfl : outcome = _ := hout
    generalize hfailed : Outcome.failed (.service service reason) = outcome at hsettles
    cases hsettles with
    | toolDenied | toolUnknown | toolRefused => cases hfailed
    | toolRun =>
      rw [ToolResult.outcome] at hfailed
      split at hfailed <;> cases hfailed
    | commandDenied | unregistered | serviceCall => exact hk rfl

/-- What is recorded of hand-overs does not blame a service. -/
theorem handover_outcome_ne {d : Dispatcher σ} {v : Visit σ} {actions : List Action}
    {next : Option Chain} (h : Delegates d v actions next) :
    ∀ a ∈ actions, ∀ service reason, a.outcome ≠ .failed (.service service reason) := by
  intro a ha service reason hout
  cases h with
  | denied _ hdenied =>
    generalize v.delegations = cs at hdenied
    induction hdenied with
    | nil => cases ha
    | cons hfirst _ ih =>
      rcases List.mem_cons.mp ha with rfl | ha
      · obtain ⟨asked, -, rfl⟩ := hfirst
        cases hout
      · exact ih ha
  | dropped => cases ha
  | decided _ _ _ _ hdecides =>
    cases hdecides with
    | refused | unknown | followed =>
      obtain rfl := List.mem_singleton.mp ha
      cases hout

end Dealing

/-- The services of a household cover what its agents document. Whatever a dispatcher of these
agents and services is asked, each command is denied by the agent's table or acknowledged by a
service. So nothing fails in a service, and nothing because a service would not support it. -/
theorem services_cover {τ : Type} (configs : List AgentConfig) :
    Covers configs (services configs : ServiceRegistry σ) ∧
      (∀ d : Dispatcher σ, Serves configs d → ∀ pad message hint world cancelled telemetry,
        let report := d.handle pad message hint (.start world cancelled telemetry)
        ∃ vs : List (Visit σ),
          Course d pad message hint (.start world cancelled telemetry) vs report ∧
          report.state.journal.filterMap Entry.reply? = allReplies vs ∧
          (∀ v ∈ vs, ∀ t ∈ v.turns, ∀ x ∈ t.deeds, ∀ e, x.block.errand? = some e →
            e.kind = .command → Met v.agent x e) ∧
          ∀ a ∈ report.state.actions, ∀ service reason,
            a.outcome ≠ .failed (.service service reason)) ∧
      ∀ s settings o (d : Dispatcher (Premises τ)), openDispatcher s settings configs o = .ok d →
        Serves configs d := by
  refine ⟨covers_services configs, ?_, fun s settings o d h => openDispatcher_serves h⟩
  intro d hd pad message hint world cancelled telemetry report
  obtain ⟨vs, course⟩ := handle_course d pad message hint (.start world cancelled telemetry)
  have hagents := course.agent_of_mem (P := fun a => a.config ∈ configs) hd.config_mem
  have hmet : ∀ v ∈ vs, ∀ t ∈ v.turns, ∀ x ∈ t.deeds, ∀ e, x.block.errand? = some e →
      e.kind = .command → Met v.agent x e := by
    intro v hv t ht x hx e he hk
    exact met_of_done hd.services (hagents v hv) (course.done_of_mem hv ht hx).1 he hk
  refine ⟨vs, course, ?_, hmet, ?_⟩
  · rw [← Ledger.replies_state]
    exact course.replies
  · intro a ha
    by_cases hk : a.kind = .delegation
    · rw [course.actions_eq] at ha
      obtain ⟨v, hv, hav⟩ := List.mem_flatMap.mp ha
      obtain ⟨i, hi⟩ := List.getElem?_of_mem hv
      exact handover_outcome_ne (course.delegates hi) a
        (List.mem_filter.mpr ⟨hav, decide_eq_true hk⟩)
    · obtain ⟨v, hv, t, ht, x, hx, e, he, hdone, hax⟩ := course.deed_of_errand ha hk
      exact deed_outcome_ne hd.services (hagents v hv) hdone he a hax

/-- An agent with one action. -/
def porterConfig : AgentConfig :=
  { AgentConfig.new "porter" with
    services := ["lights"], commands := [("dim", "lights")], maxTurns := 1 }

def noTools : ToolRegistry Unit := []

/-- The agent as it is built. -/
def porterAgent : Agent :=
  .ofConfig noTools porterConfig

/-- A dispatcher of that agent, whose model asks for the action and for another. -/
def porter : Dispatcher Unit where
  env :=
    { model := fun _ => ⟨"", "", fun _ _ world =>
        .pure ⟨.ok (Command.toFenced ⟨"dim", []⟩ ++ Command.toFenced ⟨"paint", []⟩), none⟩ world⟩
      tools := noTools
      services := services [porterConfig]
      now := fun _ => 0 }
  router := ⟨[("porter", porterAgent)], "porter", Routing.bestAgent⟩
  maxDepth := 3

/-- A house with the settings of somebody who has set only the default agent. -/
def porterHouse : Surroundings :=
  ⟨[], "/home", .directory [], 1⟩

def porterSettings : Settings :=
  { Settings.initial [] "/home" with dispatch := { defaultAgent := "porter" } }

/-- Nobody answers. -/
def silence : Outside Unit where
  glimpse := fun _ => { time := ⟨0, 0⟩ }
  send := fun _ => .pure none

/-- The server of the house is on the same machine, so its key does not matter. -/
theorem openClient_porter :
    ∃ client, openClient porterHouse porterSettings silence = .ok client := by
  have hprovider :
      porterSettings.provider (Settings.credentials porterHouse.files porterHouse.vars).1 =
        .ok .lmStudio := rfl
  have hlocal : ProviderConfig.lmStudio.isLocal = true := by decide +kernel
  rw [openClient, hprovider]
  dsimp only
  split
  next => exact ⟨_, rfl⟩
  next =>
    rw [if_pos hlocal]
    exact ⟨_, rfl⟩

theorem openDispatcher_porter :
    ∃ d, openDispatcher porterHouse porterSettings [porterConfig] silence = .ok d := by
  obtain ⟨client, hclient⟩ := openClient_porter
  have hrouter (a : Agent) (ha : a.name = "porter") :
      ∃ router, Router.withAgents porterSettings.dispatch.defaultAgent [a] = .ok router :=
    Router.exists_withAgents.mpr ⟨List.nodup_singleton _, List.mem_singleton.mpr ha.symm⟩
  obtain ⟨router, hrouter⟩ := hrouter
    { Agent.ofConfig (householdTools porterHouse porterSettings silence) porterConfig with
      timeoutMs := porterSettings.timeoutSecs * 1000 } rfl
  exact ⟨_, openDispatcher_eq_ok.mpr
    ⟨client, _, router, hclient, Agent.buildAll_singleton (by decide +kernel), hrouter, rfl⟩⟩

/-- The other action is denied. The lights would not support it, but the television would. -/
theorem services_cover_porter :
    Serves [porterConfig] porter ∧
      (∃ d, openDispatcher porterHouse porterSettings [porterConfig] silence = .ok d ∧
        Serves [porterConfig] d) ∧
      (∀ b, porter.env.services.get? "lights" = some b → ∀ params world,
        b.Accepts "dim" params world ∧ ¬ b.Accepts "paint" params world) ∧
      (∃ b, porter.env.services.get? "tv" = some b ∧ ∀ params world,
        b.Accepts "paint" params world) ∧
      let report := porter.handle .empty "go" none (.start () false none)
      report.state.actions.map (fun a => (a.name, a.service)) =
          [("dim", some "lights"), ("paint", none)] ∧
        ∀ a ∈ report.state.actions, ∀ service reason,
          a.outcome ≠ .failed (.service service reason) := by
  obtain ⟨hcovers, hruns, hopens⟩ := @services_cover Unit Unit [porterConfig]
  have hserves : Serves [porterConfig] porter := by
    refine ⟨rfl, [porterAgent], Agent.buildAll_singleton (by decide +kernel), ?_⟩
    intro e he
    refine ⟨e.2, ?_, rfl⟩
    rw [List.mem_singleton.mp he]
    exact List.mem_singleton_self porterAgent
  have hdocuments (action service : String) :
      Documents [porterConfig] action service ↔ action = "dim" ∧ service = "lights" := by
    simp [Documents, porterConfig]
  refine ⟨hserves, ?_, ?_, ?_, ?_, ?_⟩
  · obtain ⟨d, hd⟩ := openDispatcher_porter
    exact ⟨d, hd, hopens _ _ _ d hd⟩
  · intro b hb params world
    have hlights := hcovers.documented "lights" b hb ⟨"dim", (hdocuments ..).mpr ⟨rfl, rfl⟩⟩
    exact ⟨(hlights ..).mpr ((hdocuments ..).mpr ⟨rfl, rfl⟩),
      fun h => absurd ((hdocuments ..).mp ((hlights ..).mp h)).1 (by decide)⟩
  · obtain ⟨b, hb, -⟩ := hcovers.found "tv" ((hcovers.names "tv").mpr (Or.inl (by decide)))
    refine ⟨b, hb, hcovers.undocumented "tv" b hb ?_ "paint"⟩
    intro other h
    exact absurd ((hdocuments ..).mp h).2 (by decide)
  · decide +kernel
  · obtain ⟨_, -, -, -, hactions⟩ := hruns porter hserves .empty "go" none () false none
    exact hactions

end CommandLine

end HomeAgents
