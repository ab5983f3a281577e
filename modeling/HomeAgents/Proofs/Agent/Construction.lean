import HomeAgents.Proofs.Collection.Sorted
import HomeAgents.Routing.Router
import Mathlib.Data.List.Nodup
import Mathlib.Data.String.Basic

/-!
# Agents are built exactly of valid configurations

Building looks up the services of a configuration before it checks anything else, and validation
does so last. They agree all the same on which configurations are in order. What is built is sorted
by name, so a failure is that of the least name that has one, whatever the order of the
configurations.
-/

namespace HomeAgents

variable {σ : Type}

/-- Where each element has a fault or a result, a traversal stops at the first fault. -/
theorem mapM_of_fault {ε α β : Type} {f : α → Except ε β} {fault : α → Option ε} {g : α → β}
    (hf : ∀ x, f x = (fault x).elim (.ok (g x)) .error) (xs : List α) :
    xs.mapM f = (xs.findSome? fault).elim (.ok (xs.map g)) .error := by
  induction xs with
  | nil => rfl
  | cons x xs ih =>
    rw [List.mapM_cons, hf, ih, List.findSome?_cons]
    cases fault x with
    | some e => rfl
    | none =>
      cases xs.findSome? fault with
      | some e => rfl
      | none => rfl

namespace AgentConfig

variable {c : AgentConfig} {configs : List AgentConfig} {toolNames serviceNames : List String}
  {name : String}

/-- The problem that stands in the way of building an agent: the services are looked up first. -/
def buildProblem? (c : AgentConfig) (toolNames serviceNames : List String) : Option ConfigProblem :=
  c.serviceProblem? serviceNames <|> c.basicProblem? <|> c.toolProblem? toolNames

/-- The two orders of the checks let the same configurations pass. -/
theorem buildProblem?_eq_none :
    c.buildProblem? toolNames serviceNames = none ↔ c.problem? toolNames serviceNames = none := by
  simp only [buildProblem?, problem?, Option.orElse_eq_orElse, Option.orElse_eq_or,
    Option.or_eq_none_iff]
  constructor
  · rintro ⟨hs, hb, ht⟩
    exact ⟨hb, ht, hs⟩
  · rintro ⟨hb, ht, hs⟩
    exact ⟨hs, hb, ht⟩

/-- They name different problems only if an unknown service is one of several. -/
theorem buildProblem?_eq_problem?
    (h : c.serviceProblem? serviceNames = none ∨
      c.basicProblem? = none ∧ c.toolProblem? toolNames = none) :
    c.buildProblem? toolNames serviceNames = c.problem? toolNames serviceNames := by
  rcases h with hs | ⟨hb, ht⟩
  · simp [buildProblem?, problem?, hs]
  · simp [buildProblem?, problem?, hb, ht]

/-- The configurations in the order in which agents are built of them. -/
def byName (configs : List AgentConfig) : List AgentConfig :=
  configs.mergeSort fun a b => decide (¬ b.name < a.name)

theorem byName_perm (configs : List AgentConfig) : (byName configs).Perm configs :=
  List.mergeSort_perm ..

theorem mem_byName : c ∈ byName configs ↔ c ∈ configs :=
  (byName_perm configs).mem_iff

theorem byName_sorted (configs : List AgentConfig) :
    (byName configs).Pairwise fun a b => a.name ≤ b.name :=
  Sorted.pairwise_mergeSort_key AgentConfig.name configs

/-- Configurations of one name stay in their order. -/
theorem filter_byName (name : String) (configs : List AgentConfig) :
    (byName configs).filter (·.name = name) = configs.filter (·.name = name) := by
  have hsame : (configs.filter (·.name = name)).Pairwise
      fun a b => decide (¬ b.name < a.name) = true := by
    refine List.pairwise_iff_forall_sublist.mpr fun {a b} hab => ?_
    have ha := List.mem_filter.mp (hab.subset List.mem_cons_self)
    have hb := List.mem_filter.mp (hab.subset (List.mem_cons_of_mem _ List.mem_cons_self))
    rw [decide_eq_true_eq, of_decide_eq_true ha.2, of_decide_eq_true hb.2]
    exact lt_irrefl name
  have hsublist := List.sublist_mergeSort (Sorted.keyOrder_trans AgentConfig.name)
    (Sorted.keyOrder_total AgentConfig.name) hsame List.filter_sublist
  have hfilter := hsublist.filter (·.name = name)
  rw [List.filter_filter] at hfilter
  simp only [Bool.and_self] at hfilter
  exact (hfilter.eq_of_length ((byName_perm configs).filter _).length_eq.symm).symm

/-- Where names differ, the order in which configurations come is forgotten. -/
theorem byName_eq_of_perm {other : List AgentConfig} (hnames : (configs.map AgentConfig.name).Nodup)
    (h : other.Perm configs) : byName other = byName configs := by
  have hperm : (byName other).Perm (byName configs) :=
    (byName_perm other).trans (h.trans (byName_perm configs).symm)
  refine hperm.eq_of_pairwise (fun a b ha hb hab hba => ?_) (byName_sorted other)
    (byName_sorted configs)
  have hmem : a ∈ configs := h.mem_iff.mp (mem_byName.mp ha)
  exact List.inj_on_of_nodup_map hnames hmem (mem_byName.mp hb) (hab.antisymm hba)

/-- The configuration that a failure is about: of those with a problem it has the least name, and
of those with its name it is the first. -/
structure Blamed (configs : List AgentConfig) (toolNames serviceNames : List String)
    (c : AgentConfig) : Prop where
  faulty : c.problem? toolNames serviceNames ≠ none
  least : ∀ b ∈ configs, b.problem? toolNames serviceNames ≠ none → c.name ≤ b.name
  first : ∃ front back, configs = front ++ c :: back ∧
    ∀ b ∈ front, b.name = c.name → b.problem? toolNames serviceNames = none

/-- The first fault among the sorted configurations is that of the one to blame. -/
theorem exists_blamed {p : ConfigProblem}
    (h : (byName configs).findSome? (·.buildProblem? toolNames serviceNames) = some p) :
    ∃ c, Blamed configs toolNames serviceNames c ∧
      c.buildProblem? toolNames serviceNames = some p := by
  obtain ⟨front, c, back, hsorted, hp, hfront⟩ := List.findSome?_eq_some_iff.mp h
  have hfaulty : c.problem? toolNames serviceNames ≠ none := by
    rw [ne_eq, ← buildProblem?_eq_none, hp]
    exact Option.some_ne_none p
  have hbefore : ∀ b ∈ front, b.problem? toolNames serviceNames = none :=
    fun b hb => buildProblem?_eq_none.mp (hfront b hb)
  refine ⟨c, ⟨hfaulty, fun b hb hbad => ?_, ?_⟩, hp⟩
  · have hplace : b ∈ front ++ c :: back := hsorted ▸ mem_byName.mpr hb
    have horder := byName_sorted configs
    rw [hsorted, List.pairwise_append, List.pairwise_cons] at horder
    rcases List.mem_append.mp hplace with hb | hb
    · exact absurd (hbefore b hb) hbad
    · rcases List.mem_cons.mp hb with rfl | hb
      · exact le_rfl
      · exact horder.2.1.1 b hb
  · -- sorting keeps the order of those that have the name, so the first of them is the same
    have hfound : (configs.filter (·.name = c.name)).find?
        (fun b => (b.problem? toolNames serviceNames).isSome) = some c := by
      have hnone : (front.filter (·.name = c.name)).find?
          (fun b => (b.problem? toolNames serviceNames).isSome) = none := by
        refine List.find?_eq_none.mpr fun b hb => ?_
        rw [hbefore b (List.mem_filter.mp hb).1]
        exact Bool.false_ne_true
      rw [← filter_byName, hsorted, List.filter_append, List.find?_append, hnone, Option.none_or,
        List.filter_cons, if_pos (decide_eq_true rfl)]
      exact List.find?_cons_of_pos (Option.isSome_iff_ne_none.mpr hfaulty)
    rw [List.find?_filter, List.find?_eq_some_iff_append] at hfound
    obtain ⟨-, front', back', hconfigs, hfirst⟩ := hfound
    refine ⟨front', back', hconfigs, fun b hb hname => ?_⟩
    simpa [hname] using hfirst b hb

end AgentConfig

namespace Agent

open AgentConfig

variable {configs : List AgentConfig} {tools : ToolRegistry σ} {services : ServiceRegistry σ}

/-- The agent of a configuration that is in order. -/
def ofConfig (tools : ToolRegistry σ) (c : AgentConfig) : Agent :=
  ⟨c, c.systemPromptText tools, defaultTimeoutMs⟩

theorem buildChecked_eq (c : AgentConfig) :
    buildChecked tools services c =
      (c.buildProblem? (Sorted.names tools) (Sorted.names services)).elim (.ok (ofConfig tools c))
        .error := by
  rw [buildChecked, buildProblem?]
  cases c.serviceProblem? (Sorted.names services) with
  | some p => rfl
  | none =>
    simp only [build, Option.orElse_eq_orElse, Option.orElse_eq_or, Option.none_or]
    cases c.basicProblem?.or (c.toolProblem? (Sorted.names tools)) <;> rfl

theorem buildAll_eq :
    buildAll configs tools services =
      ((byName configs).findSome?
        (·.buildProblem? (Sorted.names tools) (Sorted.names services))).elim
          (.ok ((byName configs).map (ofConfig tools))) .error :=
  mapM_of_fault buildChecked_eq (byName configs)

theorem buildAll_eq_ok {agents : List Agent} :
    buildAll configs tools services = .ok agents ↔
      (∀ c ∈ configs, c.problem? (Sorted.names tools) (Sorted.names services) = none) ∧
        (byName configs).map (ofConfig tools) = agents := by
  have hvalid : (byName configs).findSome?
      (·.buildProblem? (Sorted.names tools) (Sorted.names services)) = none ↔
        ∀ c ∈ configs, c.problem? (Sorted.names tools) (Sorted.names services) = none := by
    rw [List.findSome?_eq_none_iff]
    exact forall_congr' fun c => imp_congr mem_byName buildProblem?_eq_none
  rw [buildAll_eq, ← hvalid]
  cases (byName configs).findSome? _ <;> simp

/-- An agent alone is built if its configuration is valid. -/
theorem buildAll_singleton {c : AgentConfig}
    (h : c.problem? (Sorted.names tools) (Sorted.names services) = none) :
    buildAll [c] tools services = .ok [ofConfig tools c] := by
  refine buildAll_eq_ok.mpr ⟨?_, ?_⟩
  · intro c' hc
    rwa [List.mem_singleton.mp hc]
  · rw [byName, List.mergeSort_singleton]
    rfl

/-- Agents are built exactly if validation accepts every configuration. They are then one for each
configuration, sorted by name, with the configuration as it was. A failure is that of the faulty
configuration with the least name, and it is the one that validation reports unless an unknown
service is one of several problems. Where names differ, the order of the configurations does not
matter. -/
theorem buildAll_validates (configs : List AgentConfig) (tools : ToolRegistry σ)
    (services : ServiceRegistry σ) :
    let toolNames := Sorted.names tools
    let serviceNames := Sorted.names services
    ((∃ agents, buildAll configs tools services = .ok agents) ↔
      ∀ c ∈ configs, c.problem? toolNames serviceNames = none) ∧
    (∀ agents, buildAll configs tools services = .ok agents →
      (agents.map Agent.config).Perm configs ∧
      agents.Pairwise (fun a b => a.name ≤ b.name) ∧
      ∀ a ∈ agents, a = ⟨a.config, a.config.systemPromptText tools, defaultTimeoutMs⟩) ∧
    (∀ p, buildAll configs tools services = .error p →
      ∃ c, Blamed configs toolNames serviceNames c ∧
        (c.serviceProblem? serviceNames <|> c.basicProblem? <|> c.toolProblem? toolNames) = some p ∧
        (c.serviceProblem? serviceNames = none ∨
          c.basicProblem? = none ∧ c.toolProblem? toolNames = none →
          c.problem? toolNames serviceNames = some p)) ∧
    ((configs.map AgentConfig.name).Nodup → ∀ other, other.Perm configs →
      buildAll other tools services = buildAll configs tools services) := by
  intro toolNames serviceNames
  refine ⟨?_, fun agents h => ?_, fun p h => ?_, fun hnames other hother => ?_⟩
  · constructor
    · rintro ⟨agents, h⟩
      exact (buildAll_eq_ok.mp h).1
    · intro hvalid
      exact ⟨_, buildAll_eq_ok.mpr ⟨hvalid, rfl⟩⟩
  · obtain ⟨-, rfl⟩ := buildAll_eq_ok.mp h
    have hconfigs : ((byName configs).map (ofConfig tools)).map Agent.config = byName configs := by
      rw [List.map_map]
      exact List.map_id _
    refine ⟨?_, List.pairwise_map.mpr (byName_sorted configs), ?_⟩
    · rw [hconfigs]
      exact byName_perm configs
    intro a ha
    obtain ⟨c, -, rfl⟩ := List.mem_map.mp ha
    rfl
  · have hfault : (byName configs).findSome? (·.buildProblem? toolNames serviceNames) = some p := by
      rw [buildAll_eq] at h
      cases hq : (byName configs).findSome? (·.buildProblem? toolNames serviceNames) with
      | none =>
        rw [hq] at h
        cases h
      | some q =>
        rw [hq] at h
        rw [Except.error.inj h]
    obtain ⟨c, hblamed, hp⟩ := exists_blamed hfault
    exact ⟨c, hblamed, hp, fun hother => (buildProblem?_eq_problem? hother).symm.trans hp⟩
  · rw [buildAll_eq, buildAll_eq, byName_eq_of_perm hnames hother]

/-- A configuration that allows no turn. -/
def porterConfig : AgentConfig :=
  { AgentConfig.new "porter" with maxTurns := 0 }

/-- A configuration with a service that nobody runs. -/
def atticConfig : AgentConfig :=
  { AgentConfig.new "attic" with services := ["lift"] }

/-- Of two faulty configurations the one with the lesser name is reported, whichever comes first. -/
theorem buildAll_validates_attic :
    let cellar := AgentConfig.new "cellar"
    let build (configs : List AgentConfig) :=
      buildAll configs ([] : ToolRegistry Unit) ([] : ServiceRegistry Unit)
    build [porterConfig, cellar, atticConfig] = .error (.unknownService "attic" "lift") ∧
      build [atticConfig, porterConfig, cellar] = .error (.unknownService "attic" "lift") ∧
      ∃ agents, build [cellar] = .ok agents ∧ (agents.map Agent.config).Perm [cellar] := by
  intro cellar build
  have hporter : porterConfig.problem? [] [] ≠ none := by decide +kernel
  have hattic : atticConfig.problem? [] [] ≠ none := by decide +kernel
  have hcellar : cellar.problem? [] [] = none := by decide +kernel
  obtain ⟨hbuilt, -, hfailed, horder⟩ :=
    buildAll_validates [porterConfig, cellar, atticConfig] ([] : ToolRegistry Unit)
      ([] : ServiceRegistry Unit)
  have hfirst : build [porterConfig, cellar, atticConfig] =
      .error (.unknownService "attic" "lift") := by
    cases hbuild : build [porterConfig, cellar, atticConfig] with
    | ok agents => exact absurd (hbuilt.mp ⟨agents, hbuild⟩ porterConfig (by simp)) hporter
    | error p =>
      obtain ⟨c, ⟨hfaulty, hleast, front, back, hconfigs, -⟩, hp, -⟩ := hfailed p hbuild
      have hmem : c ∈ [porterConfig, cellar, atticConfig] := by rw [hconfigs]; simp
      have hname : c.name ≤ "attic" := hleast atticConfig (by simp) hattic
      simp only [List.mem_cons, List.not_mem_nil, or_false] at hmem
      rcases hmem with rfl | rfl | rfl
      · exact absurd hname (by decide)
      · exact absurd hcellar hfaulty
      · exact congrArg Except.error (Option.some.inj hp.symm)
  refine ⟨hfirst, ?_, ?_⟩
  · rw [← hfirst]
    exact horder (by decide) _ (by decide)
  · obtain ⟨hone, hsame, -⟩ := buildAll_validates [cellar] ([] : ToolRegistry Unit)
      ([] : ServiceRegistry Unit)
    obtain ⟨agents, hagents⟩ := hone.mpr fun c hc => List.mem_singleton.mp hc ▸ hcellar
    exact ⟨agents, hagents, (hsame agents hagents).1⟩

end Agent

end HomeAgents
