import HomeAgents.Agent.Roster
import HomeAgents.Proofs.Agent.Construction
import HomeAgents.Proofs.Collection.Ordered
import HomeAgents.Proofs.Routing.Selection

/-!
# Layers of overrides

An agent with overrides has each field from the last of them that sets it, and from its base if none
does. The agents keep their names, so a roster with overrides is again one in which no two agents
clash, and it does not matter which agent is overridden first.
-/

namespace HomeAgents

namespace AgentOverride

variable {α : Type} {base c : AgentConfig} {layers : List AgentOverride}

/-- What the last layer that sets a field sets it to. -/
def lastSet (field : AgentOverride → Option α) (layers : List AgentOverride) : Option α :=
  (layers.filterMap field).getLast?

theorem lastSet_append_singleton (field : AgentOverride → Option α) (layers : List AgentOverride)
    (o : AgentOverride) :
    lastSet field (layers ++ [o]) = (field o).or (lastSet field layers) := by
  rw [lastSet, List.filterMap_append, List.getLast?_append]
  cases h : field o with
  | none => simp [lastSet, h]
  | some value => simp [h]

/-- A configuration has every field that can be overridden from the last layer that sets it, and
from its base if no layer does. No layer says whether an agent is built in. -/
structure Layered (base : AgentConfig) (layers : List AgentOverride) (c : AgentConfig) : Prop where
  displayName : c.displayName = (lastSet (·.displayName) layers).or base.displayName
  description : c.description = (lastSet (·.description) layers).or base.description
  systemPrompt : c.systemPrompt = (lastSet (·.systemPrompt) layers).getD base.systemPrompt
  temperature : c.temperature = (lastSet (·.temperature) layers).getD base.temperature
  tools : c.tools = (lastSet (·.tools) layers).getD base.tools
  services : c.services = (lastSet (·.services) layers).getD base.services
  commands : c.commands = (lastSet (·.commands) layers).getD base.commands
  maxTurns : c.maxTurns = (lastSet (·.maxTurns) layers).getD base.maxTurns
  canNest : c.canNest = (lastSet (·.canNest) layers).getD base.canNest
  historyWindow : c.historyWindow = (lastSet (·.historyWindow) layers).getD base.historyWindow
  promptStyle : c.promptStyle = (lastSet (·.promptStyle) layers).getD base.promptStyle
  keywords : c.keywords = (lastSet (·.keywords) layers).getD base.keywords
  model : c.model = (lastSet (·.model) layers).or base.model
  maxTokens : c.maxTokens = (lastSet (·.maxTokens) layers).or base.maxTokens
  builtIn : c.builtIn = base.builtIn

theorem layered_nil (base : AgentConfig) : Layered base [] base := by
  constructor <;> rfl

/-- One more layer goes over those before it. -/
theorem Layered.applyTo (h : Layered base layers c) (o : AgentOverride) :
    Layered base (layers ++ [o]) (o.applyTo c) := by
  have hfield {β : Type} (field : AgentOverride → Option β) (old below : β)
      (hold : old = (lastSet field layers).getD below) :
      (field o).getD old = (lastSet field (layers ++ [o])).getD below := by
    rw [hold, lastSet_append_singleton, Option.getD_or]
  have hoption {β : Type} (field : AgentOverride → Option β) (old below : Option β)
      (hold : old = (lastSet field layers).or below) :
      (field o <|> old) = (lastSet field (layers ++ [o])).or below := by
    rw [hold, lastSet_append_singleton, Option.or_assoc]
    exact Option.orElse_eq_or
  exact
    { displayName := hoption _ _ _ h.displayName
      description := hoption _ _ _ h.description
      systemPrompt := hfield _ _ _ h.systemPrompt
      temperature := hfield _ _ _ h.temperature
      tools := hfield _ _ _ h.tools
      services := hfield _ _ _ h.services
      commands := hfield _ _ _ h.commands
      maxTurns := hfield _ _ _ h.maxTurns
      canNest := hfield _ _ _ h.canNest
      historyWindow := hfield _ _ _ h.historyWindow
      promptStyle := hfield _ _ _ h.promptStyle
      keywords := hfield _ _ _ h.keywords
      model := hoption _ _ _ h.model
      maxTokens := hoption _ _ _ h.maxTokens
      builtIn := h.builtIn }

theorem layered_foldl (base : AgentConfig) (layers : List AgentOverride) :
    Layered base layers (layers.foldl (fun c o => o.applyTo c) base) := by
  induction layers using List.reverseRecOn with
  | nil => exact layered_nil base
  | append_singleton layers o ih =>
    rw [List.foldl_append]
    exact ih.applyTo o

theorem layered_applyAll (name : String) (layers : List AgentOverride) (base : AgentConfig) :
    Layered base layers (applyAll name layers base) := by
  obtain ⟨⟩ := layered_foldl base layers
  constructor <;> assumption

end AgentOverride

namespace Roster

variable {σ : Type} {agents : Sorted AgentConfig} {layers : Layers} {name : String}

/-- The configuration that the overrides of a name go over. -/
def baseOf (agents : Sorted AgentConfig) (name : String) : AgentConfig :=
  (Sorted.find? name agents).getD (.new name)

/-- Overrides what is under one name. -/
def overrideOne (agents : Sorted AgentConfig) (e : String × List AgentOverride) :
    Sorted AgentConfig :=
  Sorted.insert e.1 (AgentOverride.applyAll e.1 e.2 (baseOf agents e.1)) agents

theorem override_cons (agents : Sorted AgentConfig) (e : String × List AgentOverride)
    (layers : Layers) : override agents (e :: layers) = override (overrideOne agents e) layers :=
  rfl

theorem increasing_override (h : agents.Increasing) (layers : Layers) :
    (override agents layers).Increasing := by
  induction layers generalizing agents with
  | nil => exact h
  | cons e layers ih =>
    rw [override_cons]
    exact ih (h.insert _ _)

theorem baseOf_overrideOne {e : String × List AgentOverride} (h : name ≠ e.1) :
    baseOf (overrideOne agents e) name = baseOf agents name := by
  rw [baseOf, overrideOne, Sorted.find?_insert, if_neg h]
  rfl

/-- Each name is overridden once, over what was there in the beginning. -/
theorem find?_override (agents : Sorted AgentConfig) (hlayers : (layers.map Prod.fst).Nodup)
    (name : String) :
    Sorted.find? name (override agents layers) =
      match Ordered.find? name layers with
      | none => Sorted.find? name agents
      | some overrides => some (AgentOverride.applyAll name overrides (baseOf agents name)) := by
  induction layers generalizing agents with
  | nil => rfl
  | cons e layers ih =>
    obtain ⟨hnew, hlayers⟩ := List.nodup_cons.mp hlayers
    rw [override_cons, ih _ hlayers, Ordered.find?, Ordered.find?, Sorted.lookup_cons_eq_ite]
    by_cases h : name = e.1
    · subst h
      rw [Sorted.lookup_eq_none_iff_not_mem.mpr hnew, if_pos rfl]
      exact (Sorted.find?_insert ..).trans (if_pos rfl)
    · rw [if_neg h, baseOf_overrideOne h]
      cases List.lookup name layers with
      | none => exact (Sorted.find?_insert ..).trans (if_neg h)
      | some overrides => rfl

/-- A roster in which each agent stands under its own name. -/
structure Named (agents : Sorted AgentConfig) : Prop where
  increasing : agents.Increasing
  name_eq : ∀ e ∈ agents, e.2.name = e.1

theorem Named.override (h : Named agents) (hlayers : (layers.map Prod.fst).Nodup) :
    Named (override agents layers) where
  increasing := increasing_override h.increasing layers
  name_eq := by
    intro e he
    have hfind := (increasing_override h.increasing layers).find?_eq_some_iff.mpr he
    rw [find?_override agents hlayers] at hfind
    cases hlayer : Ordered.find? e.1 layers with
    | none =>
      rw [hlayer] at hfind
      exact h.name_eq e (h.increasing.find?_eq_some_iff.mp hfind)
    | some overrides =>
      rw [hlayer] at hfind
      exact Option.some.inj hfind ▸ rfl

theorem Named.nodup (h : Named agents) : ((agents.map Prod.snd).map AgentConfig.name).Nodup := by
  have hnames : (agents.map Prod.snd).map AgentConfig.name = agents.map Prod.fst := by
    rw [List.map_map]
    exact List.map_congr_left h.name_eq
  rw [hnames]
  exact List.pairwise_map.mpr (h.increasing.imp fun hlt => hlt.ne)

/-- No two agents of such a roster clash in a router. -/
theorem Named.exists_addAll (h : Named agents) {tools : ToolRegistry σ}
    {services : ServiceRegistry σ} {built : List Agent}
    (hbuilt : Agent.buildAll (agents.map Prod.snd) tools services = .ok built)
    (defaultAgent : String) : ∃ r, (Router.new defaultAgent).addAll built = .ok r := by
  refine Router.exists_addAll (Router.registers_new defaultAgent) ?_
  obtain ⟨-, rfl⟩ := Agent.buildAll_eq_ok.mp hbuilt
  have hconfigs := (AgentConfig.byName_perm (agents.map Prod.snd)).map AgentConfig.name
  rw [List.nil_append, List.map_map]
  exact hconfigs.nodup_iff.mpr h.nodup

theorem mem_names_override (hlayers : (layers.map Prod.fst).Nodup) :
    name ∈ Sorted.names (override agents layers) ↔
      name ∈ Sorted.names agents ∨ name ∈ layers.map Prod.fst := by
  have hnames (m : Sorted AgentConfig) : name ∈ Sorted.names m ↔ Sorted.find? name m ≠ none :=
    (not_iff_comm.mp Sorted.lookup_eq_none_iff_not_mem.symm).symm
  have hlayer : name ∈ layers.map Prod.fst ↔ Ordered.find? name layers ≠ none :=
    (not_iff_comm.mp Sorted.lookup_eq_none_iff_not_mem.symm).symm
  rw [hnames, hnames, hlayer, find?_override agents hlayers]
  cases Ordered.find? name layers <;> simp

/-- Overrides put each agent's fields together from its layers, the later ones over the earlier
and all of them over the agent that was there or a new one. The roster has the agents it had and
those that are overridden, each under its own name, so that no two of them clash in a router. An
agent without overrides is what it was, and the order of the names does not matter. -/
theorem override_layered (agents : Sorted AgentConfig) (layers : Layers) (hagents : Named agents)
    (hlayers : (layers.map Prod.fst).Nodup) :
    let result := override agents layers
    Named result ∧
    (∀ name, name ∈ Sorted.names result ↔
      name ∈ Sorted.names agents ∨ name ∈ layers.map Prod.fst) ∧
    (∀ name overrides, (name, overrides) ∈ layers → ∃ c, Sorted.find? name result = some c ∧
      AgentOverride.Layered ((Sorted.find? name agents).getD (.new name)) overrides c) ∧
    (∀ name, name ∉ layers.map Prod.fst →
      Sorted.find? name result = Sorted.find? name agents) ∧
    (∀ other : Layers, other.Perm layers → override agents other = result) ∧
    ∀ (σ : Type) (tools : ToolRegistry σ) (services : ServiceRegistry σ) (built : List Agent)
      (defaultAgent : String),
      Agent.buildAll (result.map Prod.snd) tools services = .ok built →
        ∃ r, (Router.new defaultAgent).addAll built = .ok r := by
  intro result
  have hresult : Named result := hagents.override hlayers
  have hfind : ∀ name, Sorted.find? name result = _ := find?_override agents hlayers
  refine ⟨hresult, fun name => mem_names_override hlayers, ?_, ?_, ?_,
    fun σ tools services built defaultAgent hbuilt => hresult.exists_addAll hbuilt defaultAgent⟩
  · intro name overrides hmem
    refine ⟨_, ?_, AgentOverride.layered_applyAll name overrides (baseOf agents name)⟩
    rw [hfind, (Ordered.find?_eq_some_iff hlayers).mpr hmem]
  · intro name hname
    have hnone : Ordered.find? name layers = none := Sorted.lookup_eq_none_iff_not_mem.mpr hname
    rw [hfind, hnone]
  · intro other hother
    have hothers : (other.map Prod.fst).Nodup := (hother.map Prod.fst).nodup_iff.mpr hlayers
    refine (increasing_override hagents.increasing other).ext hresult.increasing fun name => ?_
    rw [find?_override agents hothers, Ordered.find?_eq_of_perm hlayers hother, hfind]

/-- Two built-in agents. -/
def houseRoster : Sorted AgentConfig :=
  [("lamp", { AgentConfig.new "lamp" with builtIn := true }),
    ("music", { AgentConfig.new "music" with builtIn := true, maxTurns := 4 })]

/-- Two layers for one of them, and one for an agent that is not there. -/
def houseLayers : Layers :=
  [("porch", [{ maxTurns := some 5 }]),
    ("music", [{ historyWindow := some 2, model := some "small" }, { model := some "large" }])]

/-- The later layer decides on the model, the earlier one on the history, and the base on the rest.
-/
theorem override_layered_house :
    let result := override houseRoster houseLayers
    Sorted.names result = ["lamp", "music", "porch"] ∧
      Sorted.find? "lamp" result = Sorted.find? "lamp" houseRoster ∧
      (∃ c, Sorted.find? "music" result = some c ∧ c.model = some "large" ∧ c.historyWindow = 2 ∧
        c.maxTurns = 4 ∧ c.builtIn = true) ∧
      (∃ c, Sorted.find? "porch" result = some c ∧ c.maxTurns = 5 ∧ c.historyWindow = 6 ∧
        c.builtIn = false) ∧
      override houseRoster houseLayers.reverse = result ∧
      ∃ built r, Agent.buildAll (result.map Prod.snd) ([] : ToolRegistry Unit)
        ([] : ServiceRegistry Unit) = .ok built ∧ (Router.new "music").addAll built = .ok r := by
  intro result
  have hroster : Named houseRoster :=
    { increasing := by unfold Sorted.Increasing; decide
      name_eq := by decide }
  obtain ⟨-, -, hover, hkept, horder, hrouter⟩ :=
    override_layered houseRoster houseLayers hroster (by decide)
  obtain ⟨music, hmusic, hlayered⟩ := hover "music" _ (List.mem_cons_of_mem _ List.mem_cons_self)
  obtain ⟨porch, hporch, hfresh⟩ := hover "porch" _ List.mem_cons_self
  have hvalid : ∀ c ∈ result.map Prod.snd, c.problem? [] [] = none := by decide +kernel
  obtain ⟨built, hbuilt⟩ : ∃ built, Agent.buildAll (result.map Prod.snd)
      ([] : ToolRegistry Unit) ([] : ServiceRegistry Unit) = .ok built :=
    ⟨_, Agent.buildAll_eq_ok.mpr ⟨hvalid, rfl⟩⟩
  obtain ⟨r, hr⟩ := hrouter Unit [] [] built "music" hbuilt
  refine ⟨?_, hkept "lamp" (by decide), ⟨music, hmusic, ?_⟩, ⟨porch, hporch, ?_⟩,
    horder _ (List.reverse_perm _), built, r, hbuilt, hr⟩
  · decide
  · exact ⟨hlayered.model, hlayered.historyWindow, hlayered.maxTurns, hlayered.builtIn⟩
  · exact ⟨hfresh.maxTurns, hfresh.historyWindow, hfresh.builtIn⟩

end Roster

end HomeAgents
