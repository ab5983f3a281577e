import HomeAgents.Session.Store
import Mathlib.Data.List.Basic

/-!
# The lifetime of a scratchpad

A session keeps the scratchpad with which it began until it is ended. A scratchpad is changed
through its own handle only, so one that is begun after the end of a session is out of reach for
those who still hold the old one.
-/

namespace HomeAgents

namespace SessionStep

/-- The session a step names. An edit names a scratchpad instead. -/
def names? : SessionStep → Option SessionId
  | .create id => some id
  | .getOrCreate id => some id
  | .get id => some id
  | .remove id => some id
  | .edit .. => none

/-- The change that a step makes through a handle. -/
def editThrough? (h : Handle) : SessionStep → Option ScratchpadEdit
  | .edit h' e => if h' = h then some e else none
  | _ => none

/-- Every new session draws a number that no step before it has named. -/
def DrawsFresh (steps : List SessionStep) : Prop :=
  steps.Pairwise fun earlier later => ∀ id, later = .create id → earlier.names? ≠ some id

theorem DrawsFresh.create_not_mem {before after : List SessionStep} {step : SessionStep}
    {id : SessionId} (h : DrawsFresh (before ++ after)) (hstep : step ∈ before)
    (hname : step.names? = some id) : .create id ∉ after := by
  intro hcreate
  have hpair := (List.pairwise_append.mp h).2.2 step hstep _ hcreate
  exact hpair id rfl hname

end SessionStep

/-- A scratchpad after several changes. -/
def Scratchpad.editAll (p : Scratchpad) (es : List ScratchpadEdit) : Scratchpad :=
  es.foldl (fun p e => (p.edit e).2) p

namespace SessionStore

open SessionStep

variable {s : SessionStore} {id id' : SessionId} {h : Handle} {step : SessionStep}
  {steps : List SessionStep}

/-- The store after several steps. -/
def after (s : SessionStore) (steps : List SessionStep) : SessionStore :=
  steps.foldl (fun s step => (s.apply step).2) s

theorem after_append (s : SessionStore) (steps steps' : List SessionStep) :
    s.after (steps ++ steps') = (s.after steps).after steps' :=
  List.foldl_append

theorem after_cons (s : SessionStore) (step : SessionStep) (steps : List SessionStep) :
    s.after (step :: steps) = (s.apply step).2.after steps :=
  rfl

/-! ### Which scratchpad a session has -/

theorem lookup_filter_ne {α : Type} (m : List (SessionId × α)) (id' id : SessionId) :
    (m.filter fun e => e.1 ≠ id).lookup id' = if id' = id then none else m.lookup id' := by
  induction m with
  | nil => simp
  | cons e m ih =>
    obtain ⟨k, v⟩ := e
    by_cases hk : k = id
    · subst hk
      by_cases hid : id' = k
      · simpa [hid] using ih
      · simpa [hid, List.lookup_cons, beq_false_of_ne hid] using ih
    · rw [List.filter_cons_of_pos (by simpa using hk), List.lookup_cons, List.lookup_cons, ih]
      by_cases hid : id' = k
      · simp [hid, hk]
      · simp [beq_false_of_ne hid]

theorem get?_create (s : SessionStore) (id id' : SessionId) :
    (s.create id).2.get? id' = if id' = id then some s.pads.length else s.get? id' := by
  show List.lookup id' ((id, s.pads.length) :: s.running.filter fun e => e.1 ≠ id) = _
  rw [List.lookup_cons, lookup_filter_ne]
  by_cases hid : id' = id
  · simp [hid]
  · simp [beq_false_of_ne hid, hid, get?]

theorem get?_remove (s : SessionStore) (id id' : SessionId) :
    (s.remove id).2.get? id' = if id' = id then none else s.get? id' :=
  lookup_filter_ne ..

theorem getOrCreate_of_some (hg : s.get? id = some h) : s.getOrCreate id = (h, s) := by
  rw [getOrCreate, hg]

theorem getOrCreate_of_none (hg : s.get? id = none) : s.getOrCreate id = s.create id := by
  rw [getOrCreate, hg]

/-- What a step does to a session: it begins it, ends it or leaves it its scratchpad. -/
inductive Moves (s : SessionStore) (id : SessionId) (step : SessionStep) : Prop
  | begins (hstep : step = .create id ∨ step = .getOrCreate id ∧ s.get? id = none)
      (hafter : (s.apply step).2 = (s.create id).2) : Moves s id step
  | ends (hstep : step = .remove id) (hafter : (s.apply step).2 = (s.remove id).2) :
      Moves s id step
  | keeps (hget : (s.apply step).2.get? id = s.get? id) : Moves s id step

theorem moves (s : SessionStore) (id : SessionId) (step : SessionStep) : Moves s id step := by
  cases step with
  | create id' =>
    by_cases hid : id = id'
    · subst hid
      exact .begins (.inl rfl) rfl
    · apply Moves.keeps
      show (s.create id').2.get? id = _
      rw [get?_create, if_neg hid]
  | getOrCreate id' =>
    cases hg : s.get? id' with
    | some h =>
      apply Moves.keeps
      show (s.getOrCreate id').2.get? id = _
      rw [getOrCreate_of_some hg]
    | none =>
      have hafter : (s.apply (.getOrCreate id')).2 = (s.create id').2 :=
        congrArg Prod.snd (getOrCreate_of_none hg)
      by_cases hid : id = id'
      · subst hid
        exact .begins (.inr ⟨rfl, hg⟩) hafter
      · apply Moves.keeps
        rw [hafter, get?_create, if_neg hid]
  | get id' => exact .keeps rfl
  | remove id' =>
    by_cases hid : id = id'
    · subst hid
      exact .ends rfl rfl
    · apply Moves.keeps
      show (s.remove id').2.get? id = _
      rw [get?_remove, if_neg hid]
  | edit h e =>
    apply Moves.keeps
    show (s.edit h e).2.get? id = _
    rw [edit]
    cases s.pads[h]? <;> rfl

/-- A session keeps its scratchpad until it is ended. -/
theorem get?_after_of_some (hg : s.get? id = some h) (hc : .create id ∉ steps)
    (hr : .remove id ∉ steps) : (s.after steps).get? id = some h := by
  induction steps generalizing s with
  | nil => exact hg
  | cons step steps ih =>
    obtain ⟨hcstep, hc⟩ := not_or.mp (mt List.mem_cons.mpr hc)
    obtain ⟨hrstep, hr⟩ := not_or.mp (mt List.mem_cons.mpr hr)
    rw [after_cons]
    refine ih ?_ hc hr
    cases s.moves id step with
    | begins hstep =>
      obtain rfl | ⟨-, hnone⟩ := hstep
      · exact absurd rfl hcstep
      · rw [hg] at hnone
        cases hnone
    | ends hstep => exact absurd hstep.symm hrstep
    | keeps hget => exact hget.trans hg

/-- A session that is not going on has no scratchpad until it is begun. -/
theorem get?_after_of_none (hg : s.get? id = none) (hc : .create id ∉ steps)
    (hb : .getOrCreate id ∉ steps) : (s.after steps).get? id = none := by
  induction steps generalizing s with
  | nil => exact hg
  | cons step steps ih =>
    obtain ⟨hcstep, hc⟩ := not_or.mp (mt List.mem_cons.mpr hc)
    obtain ⟨hbstep, hb⟩ := not_or.mp (mt List.mem_cons.mpr hb)
    rw [after_cons]
    refine ih ?_ hc hb
    cases s.moves id step with
    | begins hstep =>
      obtain rfl | ⟨rfl, -⟩ := hstep
      · exact absurd rfl hcstep
      · exact absurd rfl hbstep
    | ends hstep hafter => rw [hafter, get?_remove, if_pos rfl]
    | keeps hget => exact hget.trans hg

/-- A session that is going on was named by some step. -/
theorem exists_names_of_get? (hg : (empty.after steps).get? id = some h) :
    ∃ step ∈ steps, step.names? = some id := by
  by_contra hnone
  have hnot {step : SessionStep} (hname : step.names? = some id) : step ∉ steps :=
    fun hstep => hnone ⟨step, hstep, hname⟩
  have hget : (empty.after steps).get? id = none :=
    get?_after_of_none rfl (hnot rfl) (hnot rfl)
  rw [hget] at hg
  cases hg

/-! ### What a handle leads to -/

/-- A step changes a scratchpad only by an edit through its handle. -/
theorem getElem?_apply {p : SessionPad} (hp : s.pads[h]? = some p) (step : SessionStep) :
    (s.apply step).2.pads[h]? =
      some { p with pad := p.pad.editAll (step.editThrough? h).toList } := by
  have hlt : h < s.pads.length := (List.getElem?_eq_some_iff.mp hp).1
  have hcreate (id : SessionId) : (s.create id).2.pads[h]? = some p := by
    show (s.pads ++ [_])[h]? = _
    rw [List.getElem?_append_left hlt, hp]
  cases step with
  | create id => exact hcreate id
  | getOrCreate id =>
    show (s.getOrCreate id).2.pads[h]? = some p
    cases hg : s.get? id with
    | some h' => rw [getOrCreate_of_some hg, hp]
    | none => rw [getOrCreate_of_none hg, hcreate]
  | get id => exact hp
  | remove id => exact hp
  | edit h' e =>
    show (s.edit h' e).2.pads[h]? = _
    by_cases hh : h' = h
    · subst hh
      simp [edit, hp, editThrough?, Scratchpad.editAll, List.getElem?_set_self hlt]
    · cases hp' : s.pads[h']? with
      | none => simp [edit, hp', hp, editThrough?, hh, Scratchpad.editAll]
      | some p' =>
        simp [edit, hp', hp, editThrough?, hh, Scratchpad.editAll, List.getElem?_set_ne hh]

/-- A scratchpad after several steps is what the edits through its handle make of it. -/
theorem pad?_after {p : Scratchpad} (hp : s.pad? h = some p) (steps : List SessionStep) :
    (s.after steps).pad? h = some (p.editAll (steps.filterMap (editThrough? h))) := by
  induction steps generalizing s p with
  | nil => exact hp
  | cons step steps ih =>
    obtain ⟨sp, hsp, rfl⟩ := Option.map_eq_some_iff.mp hp
    have hstep : (s.apply step).2.pad? h =
        some (sp.pad.editAll (step.editThrough? h).toList) := by
      rw [pad?, getElem?_apply hsp]
      rfl
    rw [after_cons, ih hstep]
    cases hedit : step.editThrough? h with
    | none => rw [List.filterMap_cons_none hedit]; rfl
    | some e => rw [List.filterMap_cons_some hedit]; rfl

/-- A scratchpad that is just begun is empty, its handle is new, and its session has it. -/
theorem create_spec (s : SessionStore) (id : SessionId) :
    s.pad? (s.create id).1 = none ∧ (s.create id).2.pad? (s.create id).1 = some .empty ∧
      (s.create id).2.get? id = some (s.create id).1 := by
  refine ⟨?_, ?_, ?_⟩
  · show s.pads[s.pads.length]?.map _ = none
    simp
  · show (s.pads ++ [_])[s.pads.length]?.map _ = _
    simp
  · rw [get?_create, if_pos rfl]
    rfl

end SessionStore

end HomeAgents
