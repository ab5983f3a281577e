import HomeAgents.Proofs.Dispatch.Tour

/-!
# The account of a dispatch

The ledger of a dispatch is that of its visits, apart from asides. So what its state has to show of
replies, block errors, errands and calls is what its turns and deeds have added, in their order.
-/

namespace HomeAgents.Dispatch

variable {σ : Type} {s : RunState σ}

/-- The replies of some visits, in order. -/
def allReplies (vs : List (Visit σ)) : List String :=
  (allTurns vs).map Turn.reply

/-- The blocks carried out in some visits, in order. -/
def allDeeds (vs : List (Visit σ)) : List (Deed σ) :=
  (allTurns vs).flatMap Turn.deeds

section Courses

variable {d : Dispatcher σ} {pad : Scratchpad} {message : String} {hint : Option String}
  {vs : List (Visit σ)} {report : Dispatcher.Report σ}

theorem Course.made_of_mem (h : Course d pad message hint s vs report) :
    ∀ v ∈ vs, ∃ sequel, v.Made d pad sequel := by
  cases h with
  | unrouted hr => intro v hv; cases hv
  | failed hr tours | answered hr tours => exact tours.made_of_mem

theorem Course.canNest (h : Course d pad message hint s vs report) :
    ∀ v ∈ vs.dropLast, v.agent.config.canNest = true := by
  cases h with
  | unrouted hr => intro v hv; cases hv
  | failed hr tours | answered hr tours => exact tours.canNest

/-- The rest of a reply is left out only in the last turn of all, and the result is cancelled
then. -/
theorem Course.last_of_stopped (h : Course d pad message hint s vs report) :
    (∀ t ∈ (allTurns vs).dropLast, t.progress.stopped = false) ∧
      ∀ t ∈ allTurns vs, t.progress.stopped = true →
        ∃ result, report.outcome = .ok result ∧ result.stopReason = .cancelled := by
  cases h with
  | unrouted hr =>
    exact ⟨fun _ ht => absurd ht List.not_mem_nil, fun _ ht => absurd ht List.not_mem_nil⟩
  | failed hr tours =>
    refine ⟨tours.last_of_stopped.1, fun t ht hs => ?_⟩
    obtain ⟨ending, he, _⟩ := tours.last_of_stopped.2 t ht hs
    cases he
  | answered hr tours =>
    refine ⟨tours.last_of_stopped.1, fun t ht hs => ?_⟩
    obtain ⟨ending, he, hreason⟩ := tours.last_of_stopped.2 t ht hs
    obtain rfl := Except.ok.inj he
    exact ⟨_, rfl, hreason⟩

theorem routed_extends (d : Dispatcher σ) (message : String) (hint : Option String)
    (s : RunState σ) : Extends d.env s .blank (routed d message hint s) where
  ledger := by
    rw [Ledger.append_blank]
    ext1
    · simp [RunState.ledger, routed, Entry.isLog]
    · rfl
    · rfl
  world := rfl
  cancelled := (Bool.or_false _).symm
  quiet := trivial
  ends := rfl

theorem routed_emit_extends (d : Dispatcher σ) (message : String) (hint : Option String)
    (agent : Agent) (s : RunState σ) :
    Extends d.env s (.told [.event (.routed agent.name hint.isSome)])
      ((routed d message hint s).emit (.routed agent.name hint.isSome)) :=
  (routed_extends d message hint s).trans (Extends.emit rfl fun _ => rfl)

theorem Ending.finish_extends (env : Environment σ) (e : Ending) (s : RunState σ) :
    ∃ l : Ledger, l.Aside ∧ Extends env s l (e.finish s) := by
  by_cases hr : e.reason = .cancelled
  · rw [Ending.finish, if_pos hr]
    exact ⟨_, .event rfl, Extends.emit rfl fun _ => rfl⟩
  · rw [Ending.finish, if_neg hr]
    exact ⟨_, .blank, Extends.refl s⟩

/-- A dispatch adds what its visits add, between asides. -/
theorem Course.extends_join (h : Course d pad message hint s vs report) :
    ∃ before after : Ledger, before.Aside ∧ after.Aside ∧
      Extends d.env s (before ++ .join (vs.map Visit.ledger) ++ after) report.state := by
  cases h with
  | unrouted hr => exact ⟨.blank, .blank, .blank, .blank, routed_extends d message hint s⟩
  | @failed agent vs e s' hr tours =>
    have hrouted := routed_emit_extends d message hint agent s
    exact ⟨_, .blank, .event rfl, .blank,
      (hrouted.trans tours.extends_join).trans (Extends.refl s')⟩
  | @answered agent vs ending s' hr tours =>
    obtain ⟨after, hafter, hfinish⟩ := ending.finish_extends d.env s'
    have hrouted := routed_emit_extends d message hint agent s
    exact ⟨_, after, .event rfl, hafter,
      ((hrouted.trans tours.extends_join).trans hfinish).then_blank (Extends.log ..)⟩

/-- What is read of a dispatch is read of the turns of its visits. -/
theorem Course.read_ledger {β : Type} (r : Ledger.Reading β)
    (h : Course d pad message hint s vs report) :
    r.read report.state.ledger = r.read s.ledger ++
      vs.flatMap fun v => v.turns.flatMap fun t => r.read (t.ledger d.env v.agent) := by
  obtain ⟨before, after, hbefore, hafter, hext⟩ := h.extends_join
  have hvisits : (vs.flatMap fun v => r.read v.ledger) =
      vs.flatMap fun v => v.turns.flatMap fun t => r.read (t.ledger d.env v.agent) := by
    refine List.flatMap_congr fun v hv => ?_
    obtain ⟨_, made⟩ := h.made_of_mem v hv
    exact made.read_ledger r
  rw [hext.ledger, r.append, r.append, r.append, r.aside _ hbefore, r.aside _ hafter, r.read_join,
    List.flatMap_map, List.nil_append, List.append_nil, hvisits]

/-- A carried-out block of a turn of the dispatch was done by the agent that the turn belongs to. -/
theorem Course.done_of_mem (h : Course d pad message hint s vs report) {v : Visit σ} {t : Turn σ}
    {x : Deed σ} (hv : v ∈ vs) (ht : t ∈ v.turns) (hx : x ∈ t.deeds) :
    x.Done d.env v.agent v.chain.message ∧ x.block ∈ (Reply.parse t.reply).blocks := by
  obtain ⟨_, made⟩ := h.made_of_mem v hv
  obtain ⟨_, taken⟩ := made.turns.taken_of_mem t ht
  have hblock := taken.blocks.blocks_isPrefix.subset (List.mem_map_of_mem hx)
  exact ⟨taken.blocks.done_of_mem x hx, (List.mem_filter.mp hblock).1⟩

theorem Course.taken_of_mem (h : Course d pad message hint s vs report) {t : Turn σ}
    (ht : t ∈ allTurns vs) :
    ∃ v ∈ vs, ∃ handover, t.Taken d.env v.agent v.chain.message handover := by
  obtain ⟨v, hv, htv⟩ := List.mem_flatMap.mp ht
  obtain ⟨_, made⟩ := h.made_of_mem v hv
  obtain ⟨handover, taken⟩ := made.turns.taken_of_mem t htv
  exact ⟨v, hv, handover, taken⟩

/-- What is read of turns through their deeds is read of the deeds of the dispatch. -/
theorem flatMap_allDeeds {β : Type} (f : Deed σ → List β) (vs : List (Visit σ)) :
    (vs.flatMap fun v => v.turns.flatMap fun t => t.deeds.flatMap f) = (allDeeds vs).flatMap f := by
  rw [allDeeds, allTurns, List.flatMap_assoc, List.flatMap_assoc]

section Start

variable {world : σ} {cancelled : Bool} {telemetry : Option Telemetry}

/-- A dispatch from the start adds all that its state has to show. -/
theorem Course.extends_ledger
    (h : Course d pad message hint (.start world cancelled telemetry) vs report) :
    Extends d.env (.start world cancelled telemetry) report.state.ledger report.state := by
  obtain ⟨before, after, _, _, hext⟩ := h.extends_join
  have hl := hext.ledger
  rw [RunState.ledger_start, Ledger.blank_append] at hl
  rwa [hl]

/-- The world after a dispatch is the one that the calls of its journal lead to. -/
theorem Course.world_eq_replay
    (h : Course d pad message hint (.start world cancelled telemetry) vs report) :
    report.state.world = replay d.env report.state.journal world := by
  rw [← replay_filter]
  exact h.extends_ledger.world

theorem Course.replies
    (h : Course d pad message hint (.start world cancelled telemetry) vs report) :
    report.state.ledger.replies = allReplies vs := by
  have hread : report.state.ledger.replies =
      vs.flatMap fun v => v.turns.flatMap fun t => (t.ledger d.env v.agent).replies :=
    h.read_ledger .replies
  rw [hread, allReplies, allTurns, List.map_flatMap]
  refine List.flatMap_congr fun v hv => ?_
  obtain ⟨_, made⟩ := h.made_of_mem v hv
  rw [List.map_eq_flatMap]
  refine List.flatMap_congr fun t ht => ?_
  obtain ⟨_, taken⟩ := made.turns.taken_of_mem t ht
  exact taken.replies

theorem Course.errors
    (h : Course d pad message hint (.start world cancelled telemetry) vs report) :
    report.state.ledger.errors = (allReplies vs).flatMap fun r => (Reply.parse r).errors := by
  have hread : report.state.ledger.errors =
      vs.flatMap fun v => v.turns.flatMap fun t => (t.ledger d.env v.agent).errors :=
    h.read_ledger .errors
  rw [hread, allReplies, allTurns, List.flatMap_map, List.flatMap_assoc]
  refine List.flatMap_congr fun v hv => List.flatMap_congr fun t ht => ?_
  obtain ⟨_, made⟩ := h.made_of_mem v hv
  obtain ⟨_, taken⟩ := made.turns.taken_of_mem t ht
  exact taken.errors

theorem Course.errands
    (h : Course d pad message hint (.start world cancelled telemetry) vs report) :
    report.state.ledger.errands = (allDeeds vs).flatMap fun x => x.ledger.errands := by
  have hread : report.state.ledger.errands =
      vs.flatMap fun v => v.turns.flatMap fun t => (t.ledger d.env v.agent).errands :=
    h.read_ledger .errands
  simp only [hread, Turn.errands_ledger]
  exact flatMap_allDeeds ..

theorem Course.calls
    (h : Course d pad message hint (.start world cancelled telemetry) vs report) :
    report.state.ledger.calls = (allDeeds vs).flatMap fun x => x.ledger.calls := by
  have hread : report.state.ledger.calls =
      vs.flatMap fun v => v.turns.flatMap fun t => (t.ledger d.env v.agent).calls :=
    h.read_ledger .calls
  simp only [hread, Turn.calls_ledger]
  exact flatMap_allDeeds ..

end Start

end Courses

end HomeAgents.Dispatch
