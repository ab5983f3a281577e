import HomeAgents.Proofs.Collection.Sorted
import HomeAgents.Routing.Router

/-!
# Who gets a message

A router has its agents under their names, in the order of the names and not in that of their
arrival. So whatever the order in which they are added, the same one gets a message: the one that
scores most, of several the one with the least name, and the default agent if none scores. Whatever
another policy says, somebody gets the message.
-/

namespace HomeAgents

/-! ### The agents of a router -/

namespace Router

variable {r r' : Router} {a : Agent} {agents held : List Agent} {message : String}

/-- A router as it is put together: of agents that are added one by one, with any policy. -/
inductive Assembled : Router → Prop
  | new (defaultAgent : String) : Assembled (new defaultAgent)
  | add {r r' : Router} {a : Agent} (h : Assembled r) (hadd : r.add a = .ok r') : Assembled r'
  | withPolicy {r : Router} (h : Assembled r) (policy : RoutingPolicy) :
      Assembled { r with policy }

/-- The router has these agents, each under its name, sorted by their names. -/
structure Registers (r : Router) (agents : List Agent) : Prop where
  increasing : r.agents.Increasing
  get?_iff : ∀ name a, r.get? name = some a ↔ a ∈ agents ∧ a.name = name

theorem registers_new (defaultAgent : String) : (new defaultAgent).Registers [] where
  increasing := List.Pairwise.nil
  get?_iff name a := by simp [new, get?, Sorted.find?]

/-- An agent is added exactly if its name is new. -/
theorem add_eq_ok : r.add a = .ok r' ↔
    r.get? a.name = none ∧ { r with agents := Sorted.insert a.name a r.agents } = r' := by
  rw [add]
  cases r.get? a.name <;> simp

theorem Registers.get?_eq_none (h : r.Registers agents) {name : String} :
    r.get? name = none ↔ name ∉ agents.map Agent.name := by
  rw [Option.eq_none_iff_forall_not_mem, List.mem_map, not_exists]
  exact forall_congr' fun a => not_congr (h.get?_iff name a)

theorem Registers.add (h : r.Registers agents) (hadd : r.add a = .ok r') :
    r'.Registers (agents ++ [a]) := by
  obtain ⟨hnone, rfl⟩ := add_eq_ok.mp hadd
  refine ⟨h.increasing.insert a.name a, fun name b => ?_⟩
  have hfind : Router.get? { r with agents := Sorted.insert a.name a r.agents } name =
      if name = a.name then some a else r.get? name := Sorted.find?_insert ..
  rw [hfind]
  by_cases hname : name = a.name
  · -- nobody else has the name that is new
    subst hname
    have hothers : ¬ (b ∈ agents ∧ b.name = a.name) := by
      rw [← h.get?_iff, hnone]
      exact fun hb => by cases hb
    rw [if_pos rfl, List.mem_append, List.mem_singleton, Option.some_inj]
    constructor
    · rintro rfl
      exact ⟨.inr rfl, rfl⟩
    · rintro ⟨hb | hb, hname⟩
      · exact absurd ⟨hb, hname⟩ hothers
      · exact hb.symm
  · rw [if_neg hname, h.get?_iff, List.mem_append, List.mem_singleton]
    constructor
    · rintro ⟨hb, hbname⟩
      exact ⟨.inl hb, hbname⟩
    · rintro ⟨hb | rfl, hbname⟩
      · exact ⟨hb, hbname⟩
      · exact absurd hbname.symm hname

/-- However a router is put together, its agents stand under their own names. -/
theorem Assembled.registers (h : r.Assembled) : ∃ agents, r.Registers agents := by
  induction h with
  | new defaultAgent => exact ⟨[], registers_new defaultAgent⟩
  | add h hadd ih =>
    obtain ⟨agents, hagents⟩ := ih
    exact ⟨_, hagents.add hadd⟩
  | withPolicy h policy ih =>
    obtain ⟨agents, hagents⟩ := ih
    exact ⟨agents, hagents.increasing, hagents.get?_iff⟩

theorem Assembled.name_eq (h : r.Assembled) {name : String} (hg : r.get? name = some a) :
    a.name = name := by
  obtain ⟨agents, hagents⟩ := h.registers
  exact ((hagents.get?_iff name a).mp hg).2

theorem Assembled.addAll (h : r.Assembled) (hadd : r.addAll agents = .ok r') :
    r'.Assembled := by
  induction agents generalizing r with
  | nil => rwa [← Except.ok.inj hadd]
  | cons a agents ih =>
    rw [Router.addAll] at hadd
    split at hadd
    next => cases hadd
    next r₁ hfirst => exact ih (h.add hfirst) hadd

/-- A router that is made of agents at once is put together like any other. -/
theorem assembled_withAgents {defaultAgent : String}
    (h : withAgents defaultAgent agents = .ok r) : r.Assembled := by
  rw [withAgents] at h
  split at h
  next => cases h
  next r₁ hadd =>
    split at h
    next =>
      obtain rfl := Except.ok.inj h
      exact (Assembled.new defaultAgent).addAll hadd
    next => cases h

/-- What the router has does not depend on the order in which it is listed. -/
theorem Registers.agents_eq (h : r.Registers agents) (h' : r'.Registers held)
    (hmem : ∀ a, a ∈ agents ↔ a ∈ held) : r.agents = r'.agents := by
  refine h.increasing.ext h'.increasing fun name => Option.ext fun a => ?_
  change r.get? name = some a ↔ r'.get? name = some a
  rw [h.get?_iff, h'.get?_iff, hmem]

/-- Agents of different names, none of which is there already, can be added. -/
theorem exists_addAll (h : r.Registers held) (hnames : ((held ++ agents).map Agent.name).Nodup) :
    ∃ r', r.addAll agents = .ok r' := by
  induction agents generalizing r held with
  | nil => exact ⟨r, rfl⟩
  | cons a agents ih =>
    have hnew : a.name ∉ held.map Agent.name := by
      rw [List.map_append, List.map_cons] at hnames
      exact fun ha => (List.nodup_append.mp hnames).2.2 _ ha _ List.mem_cons_self rfl
    have hadd := add_eq_ok.mpr ⟨h.get?_eq_none.mpr hnew, rfl⟩
    obtain ⟨r', hr'⟩ := ih (h.add hadd) (by rwa [List.append_assoc])
    exact ⟨r', by rw [addAll, hadd]; exact hr'⟩

/-- Agents that have been added have different names, and the router has them. -/
theorem Registers.addAll (h : r.Registers held) (hheld : (held.map Agent.name).Nodup)
    (hadd : r.addAll agents = .ok r') :
    r'.Registers (held ++ agents) ∧ ((held ++ agents).map Agent.name).Nodup ∧
      r'.defaultAgent = r.defaultAgent ∧ r'.policy = r.policy := by
  induction agents generalizing r held with
  | nil =>
    obtain rfl := Except.ok.inj hadd
    rw [List.append_nil]
    exact ⟨h, hheld, rfl, rfl⟩
  | cons a agents ih =>
    rw [Router.addAll] at hadd
    split at hadd
    next => cases hadd
    next r₁ hfirst =>
      obtain ⟨hnone, hr₁⟩ := add_eq_ok.mp hfirst
      have hnew := h.get?_eq_none.mp hnone
      have hnames : ((held ++ [a]).map Agent.name).Nodup := by
        rw [List.map_append, List.nodup_append]
        refine ⟨hheld, by simp, fun name hname other hother heq => hnew ?_⟩
        rwa [← List.mem_singleton.mp hother, ← heq]
      obtain ⟨hall, hnodup, hdefault, hpolicy⟩ := ih (h.add hfirst) hnames hadd
      rw [List.append_assoc] at hall hnodup
      subst hr₁
      exact ⟨hall, hnodup, hdefault, hpolicy⟩

/-- A router is made of agents exactly if their names differ and the default agent is one of them.
-/
theorem exists_withAgents {defaultAgent : String} :
    (∃ r, withAgents defaultAgent agents = .ok r) ↔
      (agents.map Agent.name).Nodup ∧ defaultAgent ∈ agents.map Agent.name := by
  have hnew := registers_new defaultAgent
  constructor
  · rintro ⟨r, hr⟩
    rw [withAgents] at hr
    split at hr
    next => cases hr
    next r₁ hadd =>
      obtain ⟨hregisters, hnames, _⟩ := hnew.addAll List.nodup_nil hadd
      split at hr
      next hdefault =>
        refine ⟨hnames, ?_⟩
        by_contra hmissing
        rw [hregisters.get?_eq_none.mpr hmissing] at hdefault
        cases hdefault
      next => cases hr
  · rintro ⟨hnames, hdefault⟩
    obtain ⟨r, hadd⟩ := exists_addAll hnew hnames
    obtain ⟨hregisters, _⟩ := hnew.addAll List.nodup_nil hadd
    have hthere : (r.get? defaultAgent).isSome = true := by
      rw [Option.isSome_iff_ne_none, ne_eq, hregisters.get?_eq_none, not_not]
      exact hdefault
    exact ⟨r, by rw [withAgents, hadd]; exact if_pos hthere⟩

theorem withAgents_registers {defaultAgent : String} (h : withAgents defaultAgent agents = .ok r) :
    r.Registers agents ∧ r.defaultAgent = defaultAgent ∧ r.policy = Routing.bestAgent := by
  rw [withAgents] at h
  split at h
  next => cases h
  next r₁ hadd =>
    obtain ⟨hregisters, _, hdefault, hpolicy⟩ :=
      (registers_new defaultAgent).addAll List.nodup_nil hadd
    split at h
    next =>
      obtain rfl := Except.ok.inj h
      exact ⟨hregisters, hdefault, hpolicy⟩
    next => cases h

/-- In whatever order agents come, the same router is made of them. -/
theorem withAgents_perm {defaultAgent : String} (h : withAgents defaultAgent agents = .ok r)
    (hperm : held.Perm agents) : withAgents defaultAgent held = .ok r := by
  obtain ⟨hnames, hdefault⟩ := exists_withAgents.mp ⟨r, h⟩
  have hnames' := hperm.map Agent.name
  obtain ⟨r', hr'⟩ := exists_withAgents.mpr
    ⟨hnames'.nodup_iff.mpr hnames, hnames'.mem_iff.mpr hdefault⟩
  obtain ⟨hregisters, hdef, hpolicy⟩ := withAgents_registers h
  obtain ⟨hregisters', hdef', hpolicy'⟩ := withAgents_registers hr'
  have hagents := hregisters'.agents_eq hregisters fun a => hperm.mem_iff
  have heq : r' = r := by
    cases r
    cases r'
    simp_all
  rw [hr', heq]

/-! ### The choice -/

/-- An agent whose name has been chosen gets the message. -/
theorem Registers.select_eq (h : r.Registers agents) (ha : a ∈ agents)
    (hname : r.choice message = a.name) : (r.select message none).1 = .ok a := by
  have hg : r.get? (r.choice message) = some a := (h.get?_iff _ _).mpr ⟨ha, hname.symm⟩
  simp only [select, hg]

/-- The configurations that a policy chooses among. -/
def configs (r : Router) : List AgentConfig :=
  r.agents.map fun e => e.2.config

theorem choice_of_none (hp : r.policy message r.configs = none) :
    r.choice message = r.defaultAgent := by
  rw [choice, ← configs, hp]
  rfl

/-- An agent that the policy names is chosen. -/
theorem Registers.choice_of_some (h : r.Registers agents) (ha : a ∈ agents)
    (hp : r.policy message r.configs = some a.name) : r.choice message = a.name := by
  have hg := (h.get?_iff a.name a).mpr ⟨ha, rfl⟩
  rw [choice, ← configs, hp, Option.filter_some, hg]
  rfl

/-- The agent that is chosen is there: it is the one that the policy names, or the default one. -/
theorem Registers.exists_choice (h : r.Registers agents)
    (hdefault : r.defaultAgent ∈ agents.map Agent.name) (message : String) :
    ∃ a ∈ agents, r.choice message = a.name ∧ (a.name = r.defaultAgent ∨
      r.policy message r.configs = some a.name) := by
  obtain ⟨byDefault, hmem, hname⟩ := List.mem_map.mp hdefault
  cases hp : r.policy message r.configs with
  | none => exact ⟨byDefault, hmem, (choice_of_none hp).trans hname.symm, .inl hname⟩
  | some name =>
    cases hg : r.get? name with
    | none =>
      refine ⟨byDefault, hmem, ?_, .inl hname⟩
      rw [choice, ← configs, hp, Option.filter_some, hg, hname]
      rfl
    | some a =>
      obtain ⟨ha, rfl⟩ := (h.get?_iff name a).mp hg
      exact ⟨a, ha, h.choice_of_some ha hp, .inr rfl⟩

end Router

/-! ### The best score -/

namespace Routing

variable {message : String} {cs : List AgentConfig}

/-- The best of some configurations and its score: it scores more than those before it and no less
than those behind it. There is none if no configuration scores. -/
inductive Best (message : String) (cs : List AgentConfig) : Option (String × Nat) → Prop
  | none (hzero : ∀ c ∈ cs, score message c = 0) : Best message cs none
  | some {front back : List AgentConfig} {c : AgentConfig} (hcs : cs = front ++ c :: back)
      (hpos : 0 < score message c) (hfront : ∀ b ∈ front, score message b < score message c)
      (hback : ∀ b ∈ back, score message b ≤ score message c) :
      Best message cs (some (c.name, score message c))

/-- One more configuration is the best from now on exactly if it scores more. -/
theorem Best.append {best : Option (String × Nat)} (h : Best message cs best) (c : AgentConfig) :
    Best message (cs ++ [c]) (better message best c) := by
  cases h with
  | none hzero =>
    rw [better]
    split
    next hpos =>
      refine .some rfl hpos (fun b hb => ?_) fun b hb => absurd hb List.not_mem_nil
      rwa [hzero b hb]
    next hpos =>
      refine .none fun b hb => ?_
      rcases List.mem_append.mp hb with hb | hb
      · exact hzero b hb
      · rw [List.mem_singleton.mp hb]
        exact Nat.eq_zero_of_not_pos hpos
  | @some front back top hcs hpos hfront hback =>
    rw [better]
    split
    next hmore =>
      refine .some rfl (Nat.lt_trans hpos hmore) (fun b hb => ?_) fun b hb =>
        absurd hb List.not_mem_nil
      rw [hcs] at hb
      rcases List.mem_append.mp hb with hb | hb
      · exact Nat.lt_trans (hfront b hb) hmore
      · rcases List.mem_cons.mp hb with rfl | hb
        · exact hmore
        · exact Nat.lt_of_le_of_lt (hback b hb) hmore
    next hmore =>
      have hcs' : cs ++ [c] = front ++ top :: (back ++ [c]) := by
        rw [hcs, List.append_assoc, List.cons_append]
      refine .some hcs' hpos hfront fun b hb => ?_
      rcases List.mem_append.mp hb with hb | hb
      · exact hback b hb
      · rw [List.mem_singleton.mp hb]
        exact Nat.le_of_not_lt hmore

theorem best_foldl (message : String) (cs : List AgentConfig) :
    Best message cs (cs.foldl (better message) none) := by
  induction cs using List.reverseRecOn with
  | nil => exact .none fun c hc => absurd hc List.not_mem_nil
  | append_singleton cs c ih =>
    rw [List.foldl_append]
    exact ih.append c

end Routing

open Routing

/-- The agent that should get a message: if some agent scores, it scores as much as any, and of
those that do it has the least name. If none scores it is the default agent. -/
structure Favoured (message defaultAgent : String) (agents : List Agent) (a : Agent) : Prop where
  silent : (∀ b ∈ agents, score message b.config = 0) → a.name = defaultAgent
  most : (∃ b ∈ agents, 0 < score message b.config) →
    ∀ b ∈ agents, score message b.config ≤ score message a.config
  least : (∃ b ∈ agents, 0 < score message b.config) →
    ∀ b ∈ agents, score message b.config = score message a.config → a.name ≤ b.name

namespace Router

variable {r : Router} {agents : List Agent}

/-- The entries of a router are its agents under their names. -/
theorem Registers.mem_iff (h : r.Registers agents) {e : String × Agent} :
    e ∈ r.agents ↔ e.2 ∈ agents ∧ e.2.name = e.1 := by
  rw [← h.get?_iff]
  exact (Sorted.Increasing.find?_eq_some_iff h.increasing).symm

theorem Registers.mem_configs (h : r.Registers agents) {c : AgentConfig} :
    c ∈ r.configs ↔ ∃ a ∈ agents, a.config = c := by
  rw [configs, List.mem_map]
  constructor
  · rintro ⟨e, he, hc⟩
    exact ⟨e.2, (h.mem_iff.mp he).1, hc⟩
  · rintro ⟨a, ha, hc⟩
    exact ⟨(a.name, a), h.mem_iff.mpr ⟨ha, rfl⟩, hc⟩

/-- A policy sees the configurations in the order of their names. -/
theorem Registers.configs_increasing (h : r.Registers agents) :
    r.configs.Pairwise fun b c => b.name < c.name := by
  rw [configs, List.pairwise_map]
  refine h.increasing.imp_of_mem fun {e e'} he he' hlt => ?_
  rw [← (h.mem_iff.mp he).2, ← (h.mem_iff.mp he').2] at hlt
  exact hlt

/-- Keywords decide for the agent that should get the message. -/
theorem Registers.exists_favoured (h : r.Registers agents) (hpolicy : r.policy = bestAgent)
    (hdefault : r.defaultAgent ∈ agents.map Agent.name) (message : String) :
    ∃ a ∈ agents, (r.select message none).1 = .ok a ∧
      Favoured message r.defaultAgent agents a := by
  have hbest := best_foldl message r.configs
  have hchosen : r.policy message r.configs =
      (r.configs.foldl (better message) none).map Prod.fst := by rw [hpolicy, bestAgent]
  generalize r.configs.foldl (better message) none = best at hbest hchosen
  cases hbest with
  | none hzero =>
    obtain ⟨a, ha, hname⟩ := List.mem_map.mp hdefault
    have hselect := h.select_eq ha ((choice_of_none hchosen).trans hname.symm)
    refine ⟨a, ha, hselect, fun _ => hname, ?_, ?_⟩
    all_goals
      rintro ⟨b, hb, hpos⟩
      rw [hzero b.config (h.mem_configs.mpr ⟨b, hb, rfl⟩)] at hpos
      cases hpos
  | @some front back c hcs hpos hfront hback =>
    obtain ⟨a, ha, rfl⟩ := h.mem_configs.mp (hcs ▸ List.mem_append_right _ List.mem_cons_self)
    have hsorted := h.configs_increasing
    rw [hcs, List.pairwise_append, List.pairwise_cons] at hsorted
    have hplace : ∀ b ∈ agents, b.config ∈ front ∨ b.config = a.config ∨ b.config ∈ back := by
      intro b hb
      have hmem : b.config ∈ r.configs := h.mem_configs.mpr ⟨b, hb, rfl⟩
      rwa [hcs, List.mem_append, List.mem_cons] at hmem
    refine ⟨a, ha, h.select_eq ha (h.choice_of_some ha hchosen), fun hzero => ?_, ?_, ?_⟩
    · exact absurd (hzero a ha) hpos.ne'
    · intro _ b hb
      rcases hplace b hb with hb | hb | hb
      · exact (hfront _ hb).le
      · rw [hb]
      · exact hback _ hb
    · -- whoever scores as much stands behind, where the names are greater
      intro _ b hb hsame
      rcases hplace b hb with hb | hb | hb
      · exact absurd hsame (hfront _ hb).ne
      · exact (congrArg AgentConfig.name hb).ge
      · exact (hsorted.2.1.1 _ hb).le

/-! ### Whatever the order of the agents -/

/-- A router of agents is made exactly if their names differ and the default agent is one of them,
whatever their order. Keywords then decide for the agent that should get a message, and with any
policy somebody gets it: whom the policy names if that agent is there, or else the default agent. -/
theorem withAgents_selects (defaultAgent : String) (agents : List Agent) :
    ((∃ r, withAgents defaultAgent agents = .ok r) ↔
      (agents.map Agent.name).Nodup ∧ defaultAgent ∈ agents.map Agent.name) ∧
    ∀ r, withAgents defaultAgent agents = .ok r →
      (∀ held, held.Perm agents → withAgents defaultAgent held = .ok r) ∧
      (∀ message, ∃ a ∈ agents, (r.select message none).1 = .ok a ∧
        Favoured message defaultAgent agents a) ∧
      ∀ (policy : RoutingPolicy) (message : String), ∃ a ∈ agents,
        (({ r with policy } : Router).select message none).1 = .ok a ∧
        (a.name = defaultAgent ∨ policy message r.configs = some a.name) := by
  refine ⟨exists_withAgents, fun r hr => ⟨fun held hperm => withAgents_perm hr hperm, ?_, ?_⟩⟩
  all_goals
    obtain ⟨hregisters, rfl, hpolicy⟩ := withAgents_registers hr
    have hdefault := (exists_withAgents.mp ⟨r, hr⟩).2
  · exact hregisters.exists_favoured hpolicy hdefault
  · intro policy message
    have hother : ({ r with policy } : Router).Registers agents :=
      ⟨hregisters.increasing, hregisters.get?_iff⟩
    obtain ⟨a, ha, hchoice, hdecided⟩ := hother.exists_choice hdefault message
    exact ⟨a, ha, hother.select_eq ha hchoice, hdecided⟩

/-- An agent with one keyword. -/
def listener (name keyword : String) : Agent :=
  ⟨{ AgentConfig.new name with keywords := [keyword] }, "", 0⟩

/-- Of two agents with the same keyword the one with the lesser name gets the message, whichever is
added first. The default agent gets what neither hears, and what a policy has for somebody else. -/
theorem withAgents_selects_least :
    let music := listener "music" "play"
    let tv := listener "tv" "play"
    ∃ r, withAgents "tv" [tv, music] = .ok r ∧ withAgents "tv" [music, tv] = .ok r ∧
      (r.select "Play!" none).1 = .ok music ∧ (r.select "Stop!" none).1 = .ok tv ∧
      (({ r with policy := fun _ _ => some "radio" } : Router).select "Play!" none).1 = .ok tv := by
  intro music tv
  obtain ⟨hmade, hselects⟩ := withAgents_selects "tv" [tv, music]
  obtain ⟨r, hr⟩ := hmade.mpr ⟨by decide, by decide⟩
  obtain ⟨horder, hfavoured, hpolicy⟩ := hselects r hr
  refine ⟨r, hr, horder _ (.swap tv music []), ?_, ?_, ?_⟩
  · obtain ⟨a, ha, hselect, -, -, hleast⟩ := hfavoured "Play!"
    have hpos : 0 < score "Play!" music.config := by decide +kernel
    have hsame : score "Play!" music.config = score "Play!" tv.config := by decide +kernel
    rcases List.mem_pair.mp ha with rfl | rfl
    · exact absurd (hleast ⟨music, by simp, hpos⟩ music (by simp) hsame) (by decide)
    · exact hselect
  · obtain ⟨a, ha, hselect, hsilent, -⟩ := hfavoured "Stop!"
    have hname := hsilent (by decide +kernel)
    rcases List.mem_pair.mp ha with rfl | rfl
    · exact hselect
    · exact absurd hname (by decide)
  · obtain ⟨a, ha, hselect, hdecided⟩ := hpolicy (fun _ _ => some "radio") "Play!"
    rcases List.mem_pair.mp ha with rfl | rfl
    · exact hselect
    · exact absurd hdecided (by decide)

end Router

end HomeAgents
