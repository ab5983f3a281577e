import HomeAgents.Proofs.Dispatch.Growth
import Mathlib.Data.List.Basic

/-!
# What visits add

The ledger of a visit is that of its turns, apart from asides. A turn in which the rest of a reply
was left out is the last one of the last visit. Only an agent that may hand over is followed by
another visit.
-/

namespace HomeAgents.Dispatch

variable {σ : Type} {env : Environment σ} {agent : Agent} {s s' : RunState σ}

/-- Whatever is not the last of two lists is of the first or not the last of the second. -/
theorem mem_dropLast_append {α : Type} {x : α} {xs ys : List α} (h : x ∈ (xs ++ ys).dropLast) :
    x ∈ xs ∨ x ∈ ys.dropLast := by
  cases ys with
  | nil =>
    rw [List.append_nil] at h
    exact .inl ((List.dropLast_sublist xs).subset h)
  | cons y ys =>
    rw [List.dropLast_append_cons] at h
    exact List.mem_append.mp h

section Turns

variable {message : String} {left turn : Nat} {messages : List Message} {text : String}
  {handover : Option Handover} {ts : List (Turn σ)} {out : Except AgentError Hop}

theorem Takes.taken_of_mem
    (h : Takes env agent message left turn messages text handover s ts out s') :
    ∀ t ∈ ts, ∃ asked, t.Taken env agent message asked := by
  induction h with
  | failed call => intro t ht; cases ht
  | stopped taken | ended taken | usedUp taken =>
    intro t ht
    obtain rfl := List.mem_singleton.mp ht
    exact ⟨_, taken⟩
  | again taken hs hc rest ih =>
    intro t ht
    rcases List.mem_cons.mp ht with rfl | ht
    · exact ⟨_, taken⟩
    · exact ih t ht

theorem logMaxTurns_extends (agent : Agent) (handover : Option Handover) (s : RunState σ) :
    Extends env s .blank (logMaxTurns agent handover s) := by
  cases handover with
  | none => exact Extends.log ..
  | some h => exact (Extends.log ..).trans (Extends.log ..)

/-- A hop adds what its turns add, and perhaps an attempt that failed. -/
theorem Takes.extends_join
    (h : Takes env agent message left turn messages text handover s ts out s') :
    ∃ missed : Ledger, missed.Aside ∧
      Extends env s (.join (ts.map fun t => t.ledger env agent) ++ missed) s' := by
  induction h with
  | @failed _ _ messages _ _ s s' e call =>
    have hc := agent.complete_extends env messages s
    rw [call] at hc
    exact ⟨_, agent.asking_aside env messages s, hc⟩
  | stopped taken hs =>
    refine ⟨.blank, .blank, ?_⟩
    rw [List.map_singleton, Ledger.join_singleton]
    exact taken.extends_ledger.trans (Extends.log ..)
  | ended taken hs hc =>
    refine ⟨.blank, .blank, ?_⟩
    rw [List.map_singleton, Ledger.join_singleton, Ledger.append_blank]
    exact taken.extends_ledger
  | usedUp taken hs hc =>
    refine ⟨.blank, .blank, ?_⟩
    rw [List.map_singleton, Ledger.join_singleton]
    exact taken.extends_ledger.trans (logMaxTurns_extends ..)
  | again taken hs hc rest ih =>
    obtain ⟨missed, hm, hext⟩ := ih
    refine ⟨missed, hm, ?_⟩
    rw [List.map_cons, Ledger.join_cons, Ledger.append_assoc]
    exact taken.extends_ledger.trans hext

/-- The rest of a reply is left out only in the last turn, and the hop counts as cancelled then. -/
theorem Takes.last_of_stopped
    (h : Takes env agent message left turn messages text handover s ts out s') :
    (∀ t ∈ ts.dropLast, t.progress.stopped = false) ∧
      ∀ t ∈ ts, t.progress.stopped = true → ∃ hop, out = .ok hop ∧ hop.stopReason = .cancelled := by
  induction h with
  | failed call =>
    exact ⟨fun _ ht => absurd ht List.not_mem_nil, fun _ ht => absurd ht List.not_mem_nil⟩
  | stopped taken _ => exact ⟨fun _ ht => absurd ht List.not_mem_nil, fun _ _ _ => ⟨_, rfl, rfl⟩⟩
  | ended taken hn | usedUp taken hn =>
    refine ⟨fun _ ht => absurd ht List.not_mem_nil, fun t ht hs => ?_⟩
    rw [List.mem_singleton.mp ht, hn] at hs
    cases hs
  | @again _ _ _ u ts _ _ taken hn hc rest ih =>
    constructor
    · intro t ht
      rw [← List.singleton_append] at ht
      rcases mem_dropLast_append ht with ht | ht
      · rw [List.mem_singleton.mp ht]
        exact hn
      · exact ih.1 t ht
    · intro t ht hs
      rcases List.mem_cons.mp ht with rfl | ht
      · rw [hn] at hs
        cases hs
      · exact ih.2 t ht hs

end Turns

/-- A hand-over is only remembered of an agent that may hand over. -/
def Permitted (agent : Agent) (handover : Option Handover) : Prop :=
  handover.isSome = true → agent.config.canNest = true

theorem runBlock_permitted (env : Environment σ) (message : String) (b : Block) (s : RunState σ)
    {p : Progress} (h : Permitted agent p.handover) :
    Permitted agent (runBlock env agent message p s b).1.handover := by
  cases b with
  | toolCall c => exact h
  | malformed e => exact h
  | command c =>
    by_cases hc : c.action = Builtin.delegateAction
    · simp only [runBlock, hc, ↓reduceIte, requestHandover]
      by_cases hn : agent.config.canNest = true
      · exact fun _ => hn
      · simpa only [hn, Bool.false_eq_true, ↓reduceIte] using h
    · simpa only [runBlock, hc, ↓reduceIte] using h

theorem Carries.permitted {message : String} {bs : List Block} {p p' : Progress}
    {ds : List (Deed σ)} (h : Carries env agent message bs p s ds p' s')
    (hp : Permitted agent p.handover) : Permitted agent p'.handover := by
  induction h with
  | done => exact hp
  | skip tail ih => exact ih hp
  | stop hb hs => exact hp
  | @deed b rest p p₁ p' s s₁ s' ds hb hs run tail ih =>
    have hp₁ := runBlock_permitted env message b s hp
    rw [run] at hp₁
    exact ih hp₁

theorem Takes.permitted {message : String} {left turn : Nat} {messages : List Message}
    {text : String} {handover : Option Handover} {ts : List (Turn σ)}
    {out : Except AgentError Hop} {hop : Hop}
    (h : Takes env agent message left turn messages text handover s ts out s')
    (hp : Permitted agent handover) (ho : out = .ok hop) : Permitted agent hop.handover := by
  induction h with
  | failed call => cases ho
  | stopped taken hs =>
    obtain rfl := Except.ok.inj ho
    intro hsome
    cases hsome
  | ended taken hs hc =>
    obtain rfl := Except.ok.inj ho
    exact taken.blocks.permitted hp
  | usedUp taken hs hc =>
    obtain rfl := Except.ok.inj ho
    intro hsome
    cases hsome
  | again taken hs hc rest ih => exact ih (taken.blocks.permitted hp) ho

section Visits

variable {d : Dispatcher σ} {pad : Scratchpad}

/-- What the action of a hand-over adds. -/
def handed (agent : Agent) (h : Handover) (outcome : Outcome) : Ledger :=
  ⟨[Entry.ended (handoverAction agent h.target h.arguments outcome)],
    [handoverAction agent h.target h.arguments outcome], []⟩

theorem refuseHandover_extends (agent : Agent) (h : Handover) (depth limit : Nat)
    (hs : s.cancelled = false) :
    Extends env s (handed agent h (.failed (.nestingLimitExceeded depth limit)))
      (refuseHandover env agent h depth limit s) :=
  (Extends.log ..).trans (Extends.record_open _ hs)

theorem failHandover_extends (agent : Agent) (h : Handover) (hs : s.cancelled = false) :
    Extends env s (handed agent h (.failed (.unknownAgent h.target)))
      (failHandover env agent h s) :=
  (Extends.log ..).trans (Extends.record_open _ hs)

theorem followHandover_extends (agent next : Agent) (h : Handover) (depth : Nat)
    (hs : s.cancelled = false) :
    Extends env s (.told [.event (.delegation agent.name next.name depth)] ++
        handed agent h (.completed ("delegated to " ++ next.name)))
      (followHandover env agent next h depth s) := by
  have htold : Extends env s (.told [.event (.delegation agent.name next.name depth)])
      ((s.log .info "Delegating" [("from", agent.name), ("to", next.name),
        ("depth", toString depth)]).emit (.delegation agent.name next.name depth)) :=
    (Extends.log ..).trans (Extends.emit_open rfl hs)
  exact htold.trans (Extends.record_open _ hs)

theorem hopDone_extends (agent : Agent) (hop : Hop) (s : RunState σ) :
    Extends env s (.told [.event (.turnComplete agent.name hop.stopReason)])
      (hopDone agent hop s) :=
  Extends.emit rfl fun _ => rfl

/-- Whatever follows on a hop is an aside. -/
theorem Follows.extends_aside {depth : Nat} {chain : Chain} {out : Except AgentError Hop}
    {sequel : Sequel} (h : Follows d depth chain s out sequel s') :
    ∃ l : Ledger, l.Aside ∧ Extends d.env s l s' := by
  cases h with
  | failed => exact ⟨_, .event rfl, Extends.emit rfl fun _ => rfl⟩
  | ended hr => exact ⟨_, .event rfl, hopDone_extends ..⟩
  | cancelled hr hh hs =>
    exact ⟨_, (Ledger.Aside.event rfl).append (.mark _),
      (hopDone_extends ..).trans (Extends.look ..)⟩
  | refused hr hh hs hl =>
    have hopen := RunState.not_cancelled_of_look hs
    exact ⟨_, (Ledger.Aside.event rfl).append (.handover rfl),
      (hopDone_extends ..).trans (refuseHandover_extends _ _ _ _ hopen)⟩
  | unknown hr hh hs hl hg =>
    have hopen := RunState.not_cancelled_of_look hs
    exact ⟨_, (Ledger.Aside.event rfl).append (.handover rfl),
      (hopDone_extends ..).trans (failHandover_extends _ _ hopen)⟩
  | followed hr hh hs hl hg =>
    have hopen := RunState.not_cancelled_of_look hs
    exact ⟨_, (Ledger.Aside.event rfl).append ((Ledger.Aside.event rfl).append (.handover rfl)),
      (hopDone_extends ..).trans (followHandover_extends _ _ _ _ hopen)⟩

/-- When another agent takes over, the hop asked for it and nothing stood in its way. -/
theorem Follows.of_onward {depth : Nat} {chain next : Chain} {out : Except AgentError Hop}
    (h : Follows d depth chain s out (.onward next) s') :
    ∃ hop asked agent, out = .ok hop ∧ hop.stopReason = .textResponse ∧
      hop.handover = some asked ∧ ((hopDone chain.agent hop s).look d.env).cancelled = false ∧
      depth + 1 ≤ min d.maxDepth chain.agent.config.maxTurns ∧
      d.router.get? asked.target = some agent ∧ next = chain.handOver hop asked agent ∧
      s' = followHandover d.env chain.agent agent asked (depth + 1)
        (hopDone chain.agent hop s) := by
  cases h with
  | followed hr hh hs hl hg => exact ⟨_, _, _, rfl, hr, hh, hs, hl, hg, rfl, rfl⟩

/-- A hop that fails is the last one, and the dispatch fails with it. -/
theorem Follows.of_error {depth : Nat} {chain : Chain} {e : AgentError} {sequel : Sequel}
    (h : Follows d depth chain s (.error e) sequel s') : sequel = .over (.error e) := by
  cases h with
  | failed => rfl

/-- A hop that left blocks out is the last one, and the dispatch counts as cancelled. -/
theorem Follows.of_stopped {depth : Nat} {chain : Chain} {hop : Hop} {sequel : Sequel}
    (h : Follows d depth chain s (.ok hop) sequel s') (hr : hop.stopReason = .cancelled) :
    ∃ ending, sequel = .over (.ok ending) ∧ ending.reason = .cancelled := by
  cases h with
  | ended _ => exact ⟨_, rfl, hr⟩
  | cancelled hn | refused hn | unknown hn | followed hn =>
    rw [hr] at hn
    cases hn

/-- Another agent is visited only after one that may hand over. -/
theorem Visit.Made.canNest {v : Visit σ} {next : Chain} (h : v.Made d pad (.onward next)) :
    v.agent.config.canNest = true := by
  obtain ⟨hop, asked, _, ho, _, hh, _⟩ := h.follows.of_onward
  have hp : Permitted v.agent hop.handover :=
    h.turns.permitted (fun hnone => by cases hnone) ho
  exact hp (by rw [hh]; rfl)

/-- A visit in which the rest of a reply was left out is the last one. -/
theorem Visit.Made.over_of_stopped {v : Visit σ} {sequel : Sequel} (h : v.Made d pad sequel)
    {t : Turn σ} (ht : t ∈ v.turns) (hs : t.progress.stopped = true) :
    ∃ ending, sequel = .over (.ok ending) ∧ ending.reason = .cancelled := by
  obtain ⟨hop, ho, hr⟩ := h.turns.last_of_stopped.2 t ht hs
  have hf := h.follows
  rw [ho] at hf
  exact hf.of_stopped hr

/-- The turns of some visits, in order. -/
def allTurns (vs : List (Visit σ)) : List (Turn σ) :=
  vs.flatMap Visit.turns

/-- What a visit adds, with what follows on it. -/
def Visit.ledger (v : Visit σ) : Ledger :=
  v.passed.ledger.since v.entered.ledger

theorem Visit.extends_opened (env : Environment σ) (v : Visit σ) :
    Extends env v.entered (.told [.event (.turnStart v.agent.name v.depth)]) v.opened :=
  Extends.emit rfl fun _ => rfl

/-- A visit adds what its turns add, between asides. -/
theorem Visit.Made.exists_extends {v : Visit σ} {sequel : Sequel} (h : v.Made d pad sequel) :
    ∃ before after : Ledger, before.Aside ∧ after.Aside ∧
      Extends d.env v.entered
        (before ++ .join (v.turns.map fun t => t.ledger d.env v.agent) ++ after) v.passed := by
  obtain ⟨missed, hmissed, hturns⟩ := h.turns.extends_join
  obtain ⟨after, hafter, hpassed⟩ := h.follows.extends_aside
  refine ⟨.told [.event (.turnStart v.agent.name v.depth)], missed ++ after, .event rfl,
    hmissed.append hafter, ?_⟩
  have hall := ((v.extends_opened d.env).trans hturns).trans hpassed
  rwa [← Ledger.append_assoc, Ledger.append_assoc _ missed] at hall

theorem Visit.Made.extends_ledger {v : Visit σ} {sequel : Sequel} (h : v.Made d pad sequel) :
    Extends d.env v.entered v.ledger v.passed := by
  obtain ⟨_, _, _, _, hext⟩ := h.exists_extends
  rwa [Visit.ledger, hext.since]

/-- What is read of a visit is read of its turns. -/
theorem Visit.Made.read_ledger {β : Type} (r : Ledger.Reading β) {v : Visit σ} {sequel : Sequel}
    (h : v.Made d pad sequel) :
    r.read v.ledger = v.turns.flatMap fun t => r.read (t.ledger d.env v.agent) := by
  obtain ⟨before, after, hbefore, hafter, hext⟩ := h.exists_extends
  have hl : v.ledger = _ := hext.since
  rw [hl, r.append, r.append, r.aside _ hbefore, r.aside _ hafter, r.read_join, List.flatMap_map,
    List.nil_append, List.append_nil]

section Tours

variable {depth : Nat} {chain : Chain} {vs : List (Visit σ)} {out : Except AgentError Ending}

theorem Tours.made_of_mem (h : Tours d pad depth chain s vs out s') :
    ∀ v ∈ vs, ∃ sequel, v.Made d pad sequel := by
  induction h with
  | last made =>
    intro v hv
    obtain rfl := List.mem_singleton.mp hv
    exact ⟨_, made⟩
  | more made rest ih =>
    intro v hv
    rcases List.mem_cons.mp hv with rfl | hv
    · exact ⟨_, made⟩
    · exact ih v hv

theorem Tours.extends_join (h : Tours d pad depth chain s vs out s') :
    Extends d.env s (.join (vs.map Visit.ledger)) s' := by
  induction h with
  | last made =>
    rw [List.map_singleton, Ledger.join_singleton]
    exact made.extends_ledger
  | more made rest ih =>
    rw [List.map_cons, Ledger.join_cons]
    exact made.extends_ledger.trans ih

/-- Every visited agent but the last may hand over. -/
theorem Tours.canNest (h : Tours d pad depth chain s vs out s') :
    ∀ v ∈ vs.dropLast, v.agent.config.canNest = true := by
  induction h with
  | last made => intro v hv; cases hv
  | @more w next vs out s' made rest ih =>
    intro v hv
    rw [← List.singleton_append] at hv
    rcases mem_dropLast_append hv with hv | hv
    · rw [List.mem_singleton.mp hv]
      exact made.canNest
    · exact ih v hv

/-- The rest of a reply is left out only in the last turn of all, and the dispatch counts as
cancelled then. -/
theorem Tours.last_of_stopped (h : Tours d pad depth chain s vs out s') :
    (∀ t ∈ (allTurns vs).dropLast, t.progress.stopped = false) ∧
      ∀ t ∈ allTurns vs, t.progress.stopped = true →
        ∃ ending, out = .ok ending ∧ ending.reason = .cancelled := by
  induction h with
  | @last v out made =>
    rw [allTurns, List.flatMap_singleton]
    refine ⟨made.turns.last_of_stopped.1, fun t ht hs => ?_⟩
    obtain ⟨ending, he, hreason⟩ := made.over_of_stopped ht hs
    exact ⟨ending, Sequel.over.inj he, hreason⟩
  | @more v next vs out s' made rest ih =>
    -- Another visit follows, so no reply of this one was cut short.
    have hnone : ∀ t ∈ v.turns, t.progress.stopped = false := by
      intro t ht
      cases hs : t.progress.stopped with
      | false => rfl
      | true =>
        obtain ⟨ending, he, _⟩ := made.over_of_stopped ht hs
        cases he
    rw [allTurns, List.flatMap_cons]
    constructor
    · intro t ht
      rcases mem_dropLast_append ht with ht | ht
      · exact hnone t ht
      · exact ih.1 t ht
    · intro t ht hs
      rcases List.mem_append.mp ht with ht | ht
      · rw [hnone t ht] at hs
        cases hs
      · exact ih.2 t ht hs

end Tours

end Visits

end HomeAgents.Dispatch
