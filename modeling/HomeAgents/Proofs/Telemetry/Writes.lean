import HomeAgents.Agent.Basic
import HomeAgents.Proofs.Json.Messages
import HomeAgents.Telemetry.Store
import Mathlib.Data.List.Forall2

/-!
# What is written into a telemetry

A telemetry is written to in one way only: a trace for each model call that an agent asks for, and a
row for each action, behind the rows that are there already. Two stretches of writing make one, and
how many actions of a name succeeded and failed can be counted from the actions that were written.
-/

namespace HomeAgents

/-- A model call that an agent asked for: the provider and its model unless the agent has one of its
own, what was sent, and what came of it. -/
structure Invocation where
  agent : Agent
  provider : String
  defaultModel : String
  messages : List Message
  outcome : Except AgentError String

/-- The trace tells of the model call. Its request is read back as the messages, and it holds the
reply or the wording of the failure, and never both. -/
structure Invocation.TracedAs (session : Nat) (i : Invocation) (r : TraceRow) : Prop where
  session : r.session = session
  agent : r.agent = i.agent.name
  provider : r.provider = i.provider
  modelId : r.modelId = i.agent.config.model.getD i.defaultModel
  request : r.request = Message.listText i.messages ∧
    Json.read r.request = .ok (.array (i.messages.map Message.json))
  answer : match i.outcome with
    | .ok text => r.response = some text ∧ r.error = none
    | .error e => r.response = none ∧ r.error = some e.message

/-- The row tells of the action. -/
structure Action.RecordedAs (session : Nat) (a : Action) (r : ActionRow) : Prop where
  session : r.session = session
  agent : r.agent = a.agent
  kind : r.kind = a.kind.label
  name : r.name = a.name
  service : r.service = a.service
  arguments : r.arguments = (Json.object a.arguments).text
  output : r.output = a.outcome.text
  isError : r.isError = !a.outcome.isOk
  duration : r.durationMs = a.durationMs

/-- How many of some actions of a name succeeded, and how many failed. -/
def Action.counts (actions : List Action) (name : String) : Nat × Nat :=
  let named := actions.filter fun a => a.name = name
  (named.countP (·.outcome.isOk), named.countP (!·.outcome.isOk))

namespace Telemetry

variable {t t' t'' : Telemetry} {is is' : List Invocation} {actions actions' : List Action}

theorem le_foldl_max (ids : List Nat) (n : Nat) :
    n ≤ ids.foldl (fun n i => max n (i + 1)) n ∧
      ∀ i ∈ ids, i < ids.foldl (fun n i => max n (i + 1)) n := by
  induction ids generalizing n with
  | nil => exact ⟨Nat.le_refl n, fun _ h => absurd h List.not_mem_nil⟩
  | cons j ids ih =>
    obtain ⟨hle, hlt⟩ := ih (max n (j + 1))
    rw [List.foldl_cons]
    refine ⟨by omega, fun i hi => ?_⟩
    rcases List.mem_cons.mp hi with rfl | hi
    · omega
    · exact hlt i hi

/-- A trace with a fresh number replaces none. -/
theorem traces_save {trace : Trace} (h : trace.id = t.freshId) :
    (t.save trace).traces = t.traces ++ [t.row trace] := by
  have hkept : t.traces.filter (fun r => r.id ≠ trace.id) = t.traces := by
    refine List.filter_eq_self.mpr fun r hr => decide_eq_true ?_
    -- a fresh number is above all numbers in use
    have hlt := (le_foldl_max (t.traces.map (·.id)) 0).2 r.id (List.mem_map_of_mem hr)
    rw [h]
    exact Nat.ne_of_lt hlt
  exact congrArg (· ++ [t.row trace]) hkept

/-- Between two moments a trace was written for each of these model calls and a row for each of
these actions, in order. What was there before stays as it was. -/
structure Writes (t : Telemetry) (is : List Invocation) (actions : List Action) (t' : Telemetry) :
    Prop where
  session : t'.session = t.session
  traces : ∃ rows, t'.traces = t.traces ++ rows ∧
    List.Forall₂ (Invocation.TracedAs t.session) is rows
  actions : ∃ rows, t'.actions = t.actions ++ rows ∧
    List.Forall₂ (Action.RecordedAs t.session) actions rows

namespace Writes

theorem refl (t : Telemetry) : t.Writes [] [] t where
  session := rfl
  traces := ⟨[], (List.append_nil _).symm, .nil⟩
  actions := ⟨[], (List.append_nil _).symm, .nil⟩

theorem trans (h : t.Writes is actions t') (h' : t'.Writes is' actions' t'') :
    t.Writes (is ++ is') (actions ++ actions') t'' := by
  obtain ⟨hs, ⟨traces, ht, htraced⟩, ⟨rows, ha, hrecorded⟩⟩ := h
  obtain ⟨hs', ⟨traces', ht', htraced'⟩, ⟨rows', ha', hrecorded'⟩⟩ := h'
  rw [hs] at htraced' hrecorded'
  refine ⟨hs'.trans hs, ⟨traces ++ traces', ?_, List.rel_append htraced htraced'⟩,
    ⟨rows ++ rows', ?_, List.rel_append hrecorded hrecorded'⟩⟩
  · rw [ht', ht, List.append_assoc]
  · rw [ha', ha, List.append_assoc]

theorem recordAction (t : Telemetry) (now : Int) (a : Action) :
    t.Writes [] [a] (t.recordAction now a) where
  session := rfl
  traces := ⟨[], (List.append_nil _).symm, .nil⟩
  actions := ⟨_, rfl, .cons ⟨rfl, rfl, rfl, rfl, rfl, rfl, rfl, rfl, rfl⟩ .nil⟩

/-- A trace that is saved under a fresh number tells of a model call if its fields do. -/
theorem save {i : Invocation} {trace : Trace} (hid : trace.id = t.freshId)
    (hrow : i.TracedAs t.session (t.row trace)) : t.Writes [i] [] (t.save trace) where
  session := rfl
  traces := ⟨_, traces_save hid, .cons hrow .nil⟩
  actions := ⟨[], (List.append_nil _).symm, .nil⟩

/-- Rows are counted as the actions that they tell of. -/
theorem countP_rows {session : Nat} {rows : List ActionRow}
    (h : List.Forall₂ (Action.RecordedAs session) actions rows) (name : String) :
    let counted := rows.filter fun r => r.session = session && r.name = name
    (counted.countP (!·.isError), counted.countP (·.isError)) = Action.counts actions name := by
  induction h with
  | nil => rfl
  | @cons a r actions rows hr _ ih =>
    simp only [Action.counts, Prod.mk.injEq] at ih ⊢
    have hkept : (decide (r.session = session) && decide (r.name = name)) =
        decide (a.name = name) := by
      rw [hr.session, hr.name]
      simp
    simp only [List.filter_cons, hkept]
    by_cases hn : a.name = name
    · simp only [hn, decide_true, ↓reduceIte, List.countP_cons, ih, hr.isError, Bool.not_not,
        and_self]
    · simpa only [hn, decide_false, Bool.false_eq_true, ↓reduceIte] using ih

/-- The counts of a name grow by the actions that were written. -/
theorem actionCounts (h : t.Writes is actions t') (name : String) :
    t'.actionCounts name =
      ((t.actionCounts name).1 + (Action.counts actions name).1,
        (t.actionCounts name).2 + (Action.counts actions name).2) := by
  obtain ⟨hs, _, ⟨rows, ha, hrecorded⟩⟩ := h
  have hrows := countP_rows hrecorded name
  simp only [Telemetry.actionCounts, hs, ha, List.filter_append, List.countP_append, ← hrows]

/-- In a session that has no actions yet they are the only ones that count. -/
theorem actionCounts_of_fresh (h : t.Writes is actions t')
    (hfresh : ∀ r ∈ t.actions, r.session ≠ t.session) (name : String) :
    t'.actionCounts name = Action.counts actions name := by
  have hnone : t.actions.filter (fun r => r.session = t.session && r.name = name) = [] := by
    refine List.filter_eq_nil_iff.mpr fun r hr => ?_
    simp [hfresh r hr]
  have hzero : t.actionCounts name = (0, 0) := by
    rw [Telemetry.actionCounts, hnone]
    rfl
  rw [h.actionCounts name, hzero, Nat.zero_add, Nat.zero_add]

end Writes

end Telemetry

end HomeAgents
