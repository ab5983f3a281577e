import HomeAgents.Proofs.Session.Lifetime

/-!
# Sessions are isolated from each other

What belongs to one session is a store of its own: its scratchpads in the order in which they were
made, and the one that it has now. A step of that session does to this part what it does to the
whole store, and a step of another session leaves the part as it was. So a session sees nothing of
what others do, but for the numbers of its handles.
-/

namespace HomeAgents

section Ranks

variable {α : Type} {p : α → Bool} {xs : List α} {i j : Nat} {x y : α}

/-- An element of a list between what stands before it and what stands behind it. -/
theorem exists_split_of_getElem? (hx : xs[i]? = some x) :
    ∃ front back, xs = front ++ x :: back ∧ front.length = i := by
  obtain ⟨hlt, rfl⟩ := List.getElem?_eq_some_iff.mp hx
  refine ⟨xs.take i, xs.drop (i + 1), ?_, ?_⟩
  · rw [← List.drop_eq_getElem_cons, List.take_append_drop]
  · rw [List.length_take]
    omega

/-- An element that a filter keeps stands where as many kept ones come before it. -/
theorem getElem?_filter_countP (hx : xs[i]? = some x) (hp : p x = true) :
    (xs.filter p)[(xs.take i).countP p]? = some x := by
  obtain ⟨front, back, rfl, rfl⟩ := exists_split_of_getElem? hx
  rw [List.take_left, List.filter_append, List.filter_cons_of_pos hp, List.countP_eq_length_filter,
    List.getElem?_append_right (Nat.le_refl _), Nat.sub_self]
  rfl

/-- Replacing a kept element by a kept one replaces it among the kept ones. -/
theorem filter_set_of_pos (hx : xs[i]? = some x) (hp : p x = true) (hy : p y = true) :
    (xs.set i y).filter p = (xs.filter p).set ((xs.take i).countP p) y := by
  obtain ⟨front, back, rfl, rfl⟩ := exists_split_of_getElem? hx
  rw [List.take_left, List.set_append_right _ _ (Nat.le_refl _), Nat.sub_self, List.set_cons_zero,
    List.filter_append, List.filter_append, List.filter_cons_of_pos hp, List.filter_cons_of_pos hy,
    List.countP_eq_length_filter, List.set_append_right _ _ (Nat.le_refl _), Nat.sub_self,
    List.set_cons_zero]

theorem filter_set_of_neg (hx : xs[i]? = some x) (hp : ¬ p x = true) (hy : ¬ p y = true) :
    (xs.set i y).filter p = xs.filter p := by
  obtain ⟨front, back, rfl, rfl⟩ := exists_split_of_getElem? hx
  rw [List.set_append_right _ _ (Nat.le_refl _), Nat.sub_self, List.set_cons_zero,
    List.filter_append, List.filter_append, List.filter_cons_of_neg hp, List.filter_cons_of_neg hy]

/-- A kept element counts for the place of what comes after it. -/
theorem countP_take_lt (hx : xs[i]? = some x) (hp : p x = true) (hij : i < j) :
    (xs.take i).countP p < (xs.take j).countP p := by
  obtain ⟨front, back, rfl, rfl⟩ := exists_split_of_getElem? hx
  obtain ⟨k, rfl⟩ := Nat.exists_eq_add_of_lt hij
  rw [List.take_left, Nat.add_assoc, List.take_length_add_append, List.take_succ_cons,
    List.countP_append, List.countP_cons_of_pos hp]
  omega

end Ranks

namespace SessionStore

open SessionStep

variable {s : SessionStore} {id id' : SessionId} {h h' : Handle} {step : SessionStep}
  {steps : List SessionStep}

/-- The session a scratchpad was made for. -/
def owner? (s : SessionStore) (h : Handle) : Option SessionId :=
  s.pads[h]?.map (·.session)

/-- Where a scratchpad stands among those of a session. -/
def place (s : SessionStore) (id : SessionId) (h : Handle) : Handle :=
  (s.pads.take h).countP fun p => p.session == id

/-- What belongs to a session. -/
def part (s : SessionStore) (id : SessionId) : SessionStore where
  pads := s.pads.filter fun p => p.session == id
  running := (s.get? id).toList.map fun h => (id, s.place id h)

/-- Every session has a scratchpad that was made for it. -/
def Sound (s : SessionStore) : Prop :=
  ∀ id h, s.get? id = some h → s.owner? h = some id

/-- The session that a step is about. An edit is about none if its handle leads nowhere. -/
def about? (s : SessionStore) : SessionStep → Option SessionId
  | .edit h _ => s.owner? h
  | step => step.names?

/-- A step that is done: the session it is about, the step, and what it gives back. -/
structure Done where
  session : Option SessionId
  step : SessionStep
  handle : Option Handle
  removed : Option Json

/-- Several steps as they are done one after the other. -/
def trace (s : SessionStore) : List SessionStep → List Done
  | [] => []
  | step :: rest =>
    ⟨s.about? step, step, (s.apply step).1.1, (s.apply step).1.2⟩ :: (s.apply step).2.trace rest

/-- A step with another name for its handle. -/
def rename (f : Handle → Handle) : SessionStep → SessionStep
  | .edit h e => .edit (f h) e
  | step => step

/-- A step that is done, with other names for the handles. -/
def Done.rename (f : Handle → Handle) (e : Done) : Done :=
  { e with step := SessionStore.rename f e.step, handle := e.handle.map f }

/-- What is done with a session. -/
def traceOf (s : SessionStore) (id : SessionId) (steps : List SessionStep) : List Done :=
  (s.trace steps).filter fun e => e.session = some id

/-! ### Places -/

theorem getElem?_part {p : SessionPad} (hp : s.pads[h]? = some p) (hid : p.session = id) :
    (s.part id).pads[s.place id h]? = some p :=
  getElem?_filter_countP hp (beq_iff_eq.mpr hid)

theorem place_lt (hh : s.owner? h = some id) (hlt : h < h') : s.place id h < s.place id h' := by
  obtain ⟨p, hp, hid⟩ := Option.map_eq_some_iff.mp hh
  exact countP_take_lt hp (beq_iff_eq.mpr hid) hlt

/-- Different scratchpads of a session have different places. -/
theorem place_inj (hh : s.owner? h = some id) (hh' : s.owner? h' = some id)
    (heq : s.place id h' = s.place id h) : h' = h := by
  rcases Nat.lt_trichotomy h' h with hlt | hsame | hlt
  · exact absurd heq (Nat.ne_of_lt (place_lt hh' hlt))
  · exact hsame
  · exact absurd heq.symm (Nat.ne_of_lt (place_lt hh hlt))

/-- A step makes scratchpads and never gives one to another session. -/
theorem owners_isPrefix (s : SessionStore) (step : SessionStep) :
    s.pads.map SessionPad.session <+: (s.apply step).2.pads.map SessionPad.session := by
  rw [List.prefix_iff_getElem?]
  intro h hlt
  rw [List.length_map] at hlt
  rw [List.getElem?_map, getElem?_apply (List.getElem?_eq_getElem hlt) step, List.getElem_map]
  rfl

theorem owner?_apply (hh : s.owner? h = some id') (step : SessionStep) :
    (s.apply step).2.owner? h = some id' := by
  obtain ⟨p, hp, rfl⟩ := Option.map_eq_some_iff.mp hh
  rw [owner?, getElem?_apply hp step]
  rfl

theorem place_eq (s : SessionStore) (id : SessionId) (h : Handle) :
    s.place id h = ((s.pads.map SessionPad.session).take h).countP (· == id) := by
  rw [← List.map_take, List.countP_map]
  rfl

theorem place_apply (hh : s.owner? h = some id') (id : SessionId) (step : SessionStep) :
    (s.apply step).2.place id h = s.place id h := by
  obtain ⟨p, hp, -⟩ := Option.map_eq_some_iff.mp hh
  have hlt : h ≤ (s.pads.map SessionPad.session).length := by
    rw [List.length_map]
    exact Nat.le_of_lt (List.getElem?_eq_some_iff.mp hp).1
  obtain ⟨more, hmore⟩ := s.owners_isPrefix step
  rw [place_eq, place_eq, ← hmore, List.take_append_of_le_length hlt]

/-- A renaming that gives each scratchpad of a session its place among them. -/
def Numbers (s : SessionStore) (id : SessionId) (f : Handle → Handle) : Prop :=
  ∀ h, s.owner? h = some id → f h = s.place id h

theorem Numbers.of_apply {f : Handle → Handle} (hf : (s.apply step).2.Numbers id f) :
    s.Numbers id f := by
  intro h hh
  rw [hf h (owner?_apply hh step), place_apply hh]

theorem Numbers.of_after {f : Handle → Handle} (hf : (s.after steps).Numbers id f) :
    s.Numbers id f := by
  induction steps generalizing s with
  | nil => exact hf
  | cons step steps ih => exact (ih hf).of_apply

/-! ### Steps -/

theorem owner?_create (s : SessionStore) (id : SessionId) :
    (s.create id).2.owner? s.pads.length = some id := by
  show (s.pads ++ [_])[s.pads.length]?.map _ = _
  simp

theorem sound_empty : Sound empty := by
  intro id h hg
  cases hg

theorem Sound.apply (hs : s.Sound) (step : SessionStep) : (s.apply step).2.Sound := by
  intro id h hg
  cases s.moves id step with
  | begins hstep hafter =>
    rw [hafter, get?_create, if_pos rfl] at hg
    obtain rfl := Option.some.inj hg
    rw [hafter, owner?_create]
  | ends hstep hafter =>
    rw [hafter, get?_remove, if_pos rfl] at hg
    cases hg
  | keeps hget =>
    rw [hget] at hg
    exact owner?_apply (hs id h hg) step

theorem get?_part (s : SessionStore) (id : SessionId) :
    (s.part id).get? id = (s.get? id).map (s.place id) := by
  show ((s.get? id).toList.map fun h => (id, s.place id h)).lookup id = _
  cases s.get? id <;> simp

theorem filter_running_part (s : SessionStore) (id : SessionId) :
    (s.part id).running.filter (fun e => e.1 ≠ id) = [] := by
  simp [part]

theorem place_create (s : SessionStore) (id : SessionId) :
    (s.create id).2.place id s.pads.length = (s.part id).pads.length := by
  show ((s.pads ++ [_]).take s.pads.length).countP _ = _
  rw [List.take_left, List.countP_eq_length_filter]
  rfl

theorem part_create (s : SessionStore) (id : SessionId) :
    (s.create id).2.part id = ((s.part id).create id).2 := by
  have hpads : (s.create id).2.pads.filter (fun p => p.session == id) =
      (s.part id).pads ++ [⟨id, .empty⟩] := by
    show (s.pads ++ [_]).filter _ = _
    rw [List.filter_append, List.filter_singleton, beq_self_eq_true]
    rfl
  rw [part, get?_create, if_pos rfl, Option.toList_some, List.map_singleton, place_create, hpads]
  show _ = SessionStore.mk _ (_ :: (s.part id).running.filter fun e => e.1 ≠ id)
  rw [filter_running_part]

theorem part_remove (s : SessionStore) (id : SessionId) :
    (s.remove id).2.part id = ((s.part id).remove id).2 := by
  rw [part, get?_remove, if_pos rfl, remove, remove, filter_running_part]
  rfl

theorem edit_of_getElem? {p : SessionPad} (hp : s.pads[h]? = some p) (e : ScratchpadEdit) :
    s.edit h e = ((p.pad.edit e).1,
      { s with pads := s.pads.set h { p with pad := (p.pad.edit e).2 } }) := by
  rw [edit, hp]

theorem running_part_apply (hs : s.Sound) (hget : (s.apply step).2.get? id = s.get? id) :
    ((s.apply step).2.part id).running = (s.part id).running := by
  show ((s.apply step).2.get? id).toList.map _ = (s.get? id).toList.map _
  rw [hget]
  cases hg : s.get? id with
  | none => rfl
  | some h =>
    rw [Option.toList_some, List.map_singleton, List.map_singleton, place_apply (hs id h hg)]

/-- A step of another session leaves the part of a session as it was. -/
theorem part_apply_of_ne (hs : s.Sound) (hstep : s.about? step ≠ some id) :
    (s.apply step).2.part id = s.part id := by
  have hget : (s.apply step).2.get? id = s.get? id := by
    cases s.moves id step with
    | begins hbegin =>
      obtain rfl | ⟨rfl, -⟩ := hbegin
      · exact absurd rfl hstep
      · exact absurd rfl hstep
    | ends hend =>
      subst hend
      exact absurd rfl hstep
    | keeps hget => exact hget
  have hcreate {id' : SessionId} (hid : id' ≠ id) :
      (s.create id').2.pads.filter (fun p => p.session == id) =
        s.pads.filter fun p => p.session == id := by
    show (s.pads ++ [_]).filter _ = _
    simp [hid]
  have hne {id' : SessionId} (h : some id' ≠ some id) : id' ≠ id := fun he => h (he ▸ rfl)
  have hpads : (s.apply step).2.pads.filter (fun p => p.session == id) =
      s.pads.filter fun p => p.session == id := by
    cases step with
    | create id' => exact hcreate (hne hstep)
    | getOrCreate id' =>
      show (s.getOrCreate id').2.pads.filter _ = _
      cases hg : s.get? id' with
      | some h => rw [getOrCreate_of_some hg]
      | none => rw [getOrCreate_of_none hg, hcreate (hne hstep)]
    | get id' => rfl
    | remove id' => rfl
    | edit h e =>
      show (s.edit h e).2.pads.filter _ = _
      cases hp : s.pads[h]? with
      | none => rw [edit, hp]
      | some p =>
        have hid : ¬ (p.session == id) = true := by
          intro hid
          apply hstep
          show s.pads[h]?.map _ = _
          rw [hp, ← beq_iff_eq.mp hid]
          rfl
        rw [edit_of_getElem? hp]
        exact filter_set_of_neg hp hid hid
  exact congrArg₂ SessionStore.mk hpads (running_part_apply hs hget)

theorem about?_part {f : Handle → Handle} (hf : s.Numbers id f) (hstep : s.about? step = some id) :
    (s.part id).about? (rename f step) = some id := by
  cases step with
  | edit h e =>
    obtain ⟨p, hp, hid⟩ := Option.map_eq_some_iff.mp hstep
    show (s.part id).owner? (f h) = _
    rw [hf h hstep, owner?, getElem?_part hp hid, ← hid]
    rfl
  | create id' => exact hstep
  | getOrCreate id' => exact hstep
  | get id' => exact hstep
  | remove id' => exact hstep

/-- A step of a session does to its part what it does to the whole. -/
theorem part_apply_of_eq (hs : s.Sound) (hstep : s.about? step = some id) {f : Handle → Handle}
    (hf : (s.apply step).2.Numbers id f) :
    (s.part id).apply (rename f step) =
      (((s.apply step).1.1.map f, (s.apply step).1.2), (s.apply step).2.part id) := by
  have hget : (s.part id).get? id = (s.get? id).map f := by
    rw [get?_part]
    cases hg : s.get? id with
    | none => rfl
    | some h => exact congrArg some (hf.of_apply h (hs id h hg)).symm
  have hcreate (hafter : (s.apply step).2 = (s.create id).2) :
      (s.part id).create id = (f s.pads.length, (s.apply step).2.part id) := by
    have hnew := hf s.pads.length (by rw [hafter, owner?_create])
    rw [hnew, hafter, place_create, part_create]
    rfl
  cases step with
  | create id' =>
    obtain rfl := Option.some.inj hstep
    have hnew := hcreate rfl
    simp only [rename, apply, hnew]
    rfl
  | getOrCreate id' =>
    obtain rfl := Option.some.inj hstep
    cases hg : s.get? id' with
    | some h =>
      rw [hg] at hget
      simp only [rename, apply, getOrCreate_of_some hg, getOrCreate_of_some hget]
      rfl
    | none =>
      rw [hg] at hget
      have hnew := hcreate (congrArg Prod.snd (getOrCreate_of_none hg))
      simp only [rename, apply, getOrCreate_of_none hget, hnew, getOrCreate_of_none hg]
      rfl
  | get id' =>
    obtain rfl := Option.some.inj hstep
    simp only [rename, apply, hget]
  | remove id' =>
    obtain rfl := Option.some.inj hstep
    show (((s.part id').get? id', none), ((s.part id').remove id').2) = _
    rw [hget, ← part_remove]
    rfl
  | edit h e =>
    obtain ⟨p, hp, hid⟩ := Option.map_eq_some_iff.mp hstep
    have hpads : (s.apply (.edit h e)).2.pads.filter (fun p => p.session == id) =
        (s.part id).pads.set (s.place id h) { p with pad := (p.pad.edit e).2 } := by
      show (s.edit h e).2.pads.filter _ = _
      rw [edit_of_getElem? hp]
      exact filter_set_of_pos hp (beq_iff_eq.mpr hid) (beq_iff_eq.mpr hid)
    have hrunning : ((s.apply (.edit h e)).2.part id).running = (s.part id).running := by
      refine running_part_apply hs ?_
      show (s.edit h e).2.get? id = _
      rw [edit_of_getElem? hp]
      rfl
    have hpart : (s.apply (.edit h e)).2.part id =
        { s.part id with
          pads := (s.part id).pads.set (s.place id h) { p with pad := (p.pad.edit e).2 } } :=
      congrArg₂ SessionStore.mk hpads hrunning
    rw [hpart]
    simp only [rename, apply, edit_of_getElem? hp, hf.of_apply h hstep,
      edit_of_getElem? (getElem?_part hp hid), Option.map_some]

theorem traceOf_cons_of_eq (hstep : s.about? step = some id) (steps : List SessionStep) :
    s.traceOf id (step :: steps) =
      ⟨some id, step, (s.apply step).1.1, (s.apply step).1.2⟩ ::
        (s.apply step).2.traceOf id steps := by
  rw [traceOf, trace, List.filter_cons_of_pos (by simpa using hstep), hstep]
  rfl

theorem traceOf_cons_of_ne (hstep : s.about? step ≠ some id) (steps : List SessionStep) :
    s.traceOf id (step :: steps) = (s.apply step).2.traceOf id steps := by
  rw [traceOf, trace, List.filter_cons_of_neg (by simpa using hstep)]
  rfl

/-- What is done with a session is what is done if nothing else is done. -/
theorem trace_part (hs : s.Sound) {f : Handle → Handle} (hf : (s.after steps).Numbers id f) :
    (s.part id).trace ((s.traceOf id steps).map fun e => rename f e.step) =
        (s.traceOf id steps).map (Done.rename f) ∧
      (s.part id).after ((s.traceOf id steps).map fun e => rename f e.step) =
        (s.after steps).part id := by
  induction steps generalizing s with
  | nil => exact ⟨rfl, rfl⟩
  | cons step steps ih =>
    rw [after_cons] at hf ⊢
    obtain ⟨htrace, hafter⟩ := ih (hs.apply step) hf
    by_cases hstep : s.about? step = some id
    · have hnumbers : (s.apply step).2.Numbers id f := hf.of_after
      have happly := part_apply_of_eq hs hstep hnumbers
      rw [traceOf_cons_of_eq hstep, List.map_cons, List.map_cons, trace, after_cons, happly,
        about?_part hnumbers.of_apply hstep, htrace, hafter]
      exact ⟨rfl, rfl⟩
    · rw [traceOf_cons_of_ne hstep, ← part_apply_of_ne hs hstep]
      exact ⟨htrace, hafter⟩

/-- The steps about a session, with the handles that they have if nothing else is done. -/
def alone (id : SessionId) (steps : List SessionStep) : List SessionStep :=
  (empty.traceOf id steps).map fun e => rename ((empty.after steps).place id) e.step

/-- A session is isolated in a sequence of steps. All that is seen of it is what its own steps show
without the others: what they give back, its scratchpads and which of them it has. While it goes on
it has one scratchpad. When it is begun again after its end it has an empty one, whose handle is
new, and what becomes of that one is decided by the edits through this handle alone. -/
structure Isolated (id : SessionId) (steps : List SessionStep) : Prop where
  trace : empty.trace (alone id steps) =
    (empty.traceOf id steps).map (Done.rename ((empty.after steps).place id))
  part : empty.after (alone id steps) = (empty.after steps).part id
  pads : ∀ h, (empty.after steps).owner? h = some id →
    (empty.after (alone id steps)).pad? ((empty.after steps).place id h) =
      (empty.after steps).pad? h
  distinct : ∀ h h', (empty.after steps).owner? h = some id →
    (empty.after steps).owner? h' = some id →
    (empty.after steps).place id h' = (empty.after steps).place id h → h' = h
  lasting : ∀ before during rest h, steps = before ++ during ++ rest →
    (empty.after before).get? id = some h → .remove id ∉ during →
    let s := empty.after (before ++ during)
    s.apply (.get id) = ((some h, none), s) ∧ s.apply (.getOrCreate id) = ((some h, none), s)
  renewed : ∀ before between rest,
    steps = before ++ .remove id :: between ++ .getOrCreate id :: rest →
    .getOrCreate id ∉ between →
    let s := empty.after (before ++ .remove id :: between)
    let s' := (s.apply (.getOrCreate id)).2
    s.get? id = none ∧ ∃ h, s.pad? h = none ∧ (s.apply (.getOrCreate id)).1 = (some h, none) ∧
      s'.get? id = some h ∧ s'.pad? h = some .empty ∧
      (empty.after steps).pad? h =
        some (Scratchpad.empty.editAll (rest.filterMap (editThrough? h)))

theorem lasting_of_drawsFresh {before during rest : List SessionStep}
    (hfresh : DrawsFresh (before ++ during ++ rest))
    (hg : (empty.after before).get? id = some h) (hr : .remove id ∉ during) :
    (empty.after (before ++ during)).get? id = some h := by
  obtain ⟨step, hstep, hname⟩ := exists_names_of_get? hg
  have hc : .create id ∉ during := by
    rw [List.append_assoc] at hfresh
    intro hmem
    exact hfresh.create_not_mem hstep hname (List.mem_append_left rest hmem)
  rw [after_append]
  exact get?_after_of_some hg hc hr

theorem ended_of_drawsFresh {before between rest : List SessionStep}
    (hfresh : DrawsFresh (before ++ .remove id :: between ++ rest))
    (hb : .getOrCreate id ∉ between) :
    (empty.after (before ++ .remove id :: between)).get? id = none := by
  have hname : (SessionStep.remove id).names? = some id := rfl
  have hc : .create id ∉ between := by
    rw [List.append_cons, List.append_assoc] at hfresh
    intro hmem
    exact hfresh.create_not_mem (List.mem_append_right before (List.mem_singleton_self _)) hname
      (List.mem_append_left rest hmem)
  have hremoved : ((empty.after before).remove id).2.get? id = none := by
    rw [get?_remove, if_pos rfl]
  rw [after_append]
  exact get?_after_of_none (s := ((empty.after before).remove id).2) hremoved hc hb

/-- Whatever is done with other sessions, every session is isolated. -/
theorem sessions_isolated (id : SessionId) (steps : List SessionStep)
    (hfresh : DrawsFresh steps) : Isolated id steps := by
  have hnumbers : (empty.after steps).Numbers id ((empty.after steps).place id) := fun h hh => rfl
  obtain ⟨htrace, hpart⟩ := trace_part sound_empty hnumbers
  refine ⟨htrace, hpart, ?_, ?_, ?_, ?_⟩
  · intro h hh
    obtain ⟨p, hp, hid⟩ := Option.map_eq_some_iff.mp hh
    show (SessionStore.after (empty.part id) (alone id steps)).pad? _ = _
    rw [alone, hpart, pad?, pad?, getElem?_part hp hid, hp]
  · intro h h' hh hh' heq
    exact place_inj hh hh' heq
  · rintro before during rest h rfl hg hr s
    have hgoing : s.get? id = some h := lasting_of_drawsFresh hfresh hg hr
    constructor
    · simp only [apply, hgoing]
    · simp only [apply, getOrCreate_of_some hgoing]
  · rintro before between rest rfl hb s s'
    have hended : s.get? id = none := ended_of_drawsFresh hfresh hb
    have hbegun : s' = (s.create id).2 := congrArg Prod.snd (getOrCreate_of_none hended)
    obtain ⟨hnew, hempty, hget⟩ := s.create_spec id
    rw [← hbegun] at hempty hget
    refine ⟨hended, (s.create id).1, hnew, ?_, hget, hempty, ?_⟩
    · simp only [apply, getOrCreate_of_none hended]
    · rw [after_append, after_cons]
      exact pad?_after hempty rest

/-- A lodger moves out and in again, and a letter comes for the old room. -/
def lodgerSteps : List SessionStep :=
  [.create 1, .edit 0 (.append (.user "hello")), .getOrCreate 2,
    .edit 1 (.setContext "room" (.string "hall")), .remove 1, .getOrCreate 1,
    .edit 0 (.append (.user "letter")), .get 1]

/-- The neighbour notices nothing, and the new room stays empty. -/
theorem sessions_isolated_lodger :
    DrawsFresh lodgerSteps ∧
      (empty.after lodgerSteps).part 2 =
        empty.after [.getOrCreate 2, .edit 0 (.setContext "room" (.string "hall"))] ∧
      ∃ h, (empty.after (lodgerSteps.take 5)).pad? h = none ∧
        ((empty.after lodgerSteps).apply (.get 1)).1 = (some h, none) ∧
        (empty.after lodgerSteps).pad? h = some .empty := by
  have hfresh : DrawsFresh lodgerSteps := by simp [DrawsFresh, lodgerSteps, names?]
  have hlodger := sessions_isolated 1 lodgerSteps hfresh
  obtain ⟨-, h, hnew, -, hget, -, hpad⟩ :=
    hlodger.renewed (lodgerSteps.take 4) [] (lodgerSteps.drop 6) rfl (by simp)
  obtain ⟨hlast, -⟩ := hlodger.lasting (lodgerSteps.take 6) (lodgerSteps.drop 6) [] h rfl hget
    (by simp [lodgerSteps])
  -- the letter is for the room that was there before
  have hold : 0 ≠ h := by
    rintro rfl
    cases hnew
  have hedits : (lodgerSteps.drop 6).filterMap (editThrough? h) = [] := by
    simp [lodgerSteps, List.filterMap_cons, editThrough?, hold]
  rw [hedits] at hpad
  exact ⟨hfresh, (sessions_isolated 2 lodgerSteps hfresh).part.symm, h, hnew,
    congrArg Prod.fst hlast, hpad⟩

end SessionStore

end HomeAgents
