import HomeAgents.Collection.Sorted
import Mathlib.Data.List.Induction
import Mathlib.Data.String.Basic

/-!
# What sorted entries hold

Sorted entries are told apart by what they hold under each name. The entries collected from a list
hold what stands last in the list under each name.
-/

namespace HomeAgents.Sorted

variable {α : Type} {m m' : Sorted α} {entries : List (String × α)} {name key : String} {value : α}

section Order

variable {β : Type} (key : β → String)

/-- The order in which a sort by names puts two values is transitive. -/
theorem keyOrder_trans (a b c : β) (hab : decide (¬ key b < key a) = true)
    (hbc : decide (¬ key c < key b) = true) : decide (¬ key c < key a) = true := by
  rw [decide_eq_true_eq, not_lt] at hab hbc ⊢
  exact hab.trans hbc

theorem keyOrder_total (a b : β) :
    (decide (¬ key b < key a) || decide (¬ key a < key b)) = true := by
  rw [Bool.or_eq_true, decide_eq_true_eq, decide_eq_true_eq, not_lt, not_lt]
  exact le_total (key a) (key b)

theorem pairwise_mergeSort_key (xs : List β) :
    (xs.mergeSort fun a b => decide (¬ key b < key a)).Pairwise fun a b => key a ≤ key b := by
  refine (List.pairwise_mergeSort (keyOrder_trans key) (keyOrder_total key) xs).imp fun h => ?_
  rwa [decide_eq_true_eq, not_lt] at h

end Order

section ByName

theorem byName_perm (entries : List (String × α)) : (byName entries).Perm entries :=
  List.mergeSort_perm ..

theorem mem_byName {e : String × α} : e ∈ byName entries ↔ e ∈ entries :=
  (byName_perm entries).mem_iff

/-- Entries with different names are put into their one order. -/
theorem byName_increasing (h : (entries.map Prod.fst).Nodup) : (byName entries).Increasing := by
  have hsorted : (byName entries).Pairwise fun a b => a.1 ≤ b.1 :=
    pairwise_mergeSort_key Prod.fst entries
  have hnodup : ((byName entries).map Prod.fst).Nodup :=
    ((byName_perm entries).map Prod.fst).nodup_iff.mpr h
  exact hsorted.imp₂ (fun _ _ hle hne => lt_of_le_of_ne hle hne) (List.pairwise_map.mp hnodup)

/-- There is one way to put entries with different names into order. -/
theorem byName_eq {m : Sorted α} (hperm : m.Perm entries) (h : m.Increasing) :
    byName entries = m := by
  have hnodup : (entries.map Prod.fst).Nodup :=
    (hperm.map Prod.fst).nodup_iff.mp (List.pairwise_map.mpr (h.imp fun hlt => ne_of_lt hlt))
  refine List.Perm.eq_of_pairwise ?_ (byName_increasing hnodup) h
    ((byName_perm entries).trans hperm.symm)
  exact fun _ _ _ _ hab hba => absurd hba (lt_asymm hab)

/-- Values that are made of the entries come in the order of the entries. -/
theorem byName_map {β : Type} (f : String × α → β) (entries : List (String × α)) :
    byName (entries.map fun e => (e.1, f e)) = (byName entries).map fun e => (e.1, f e) := by
  refine Eq.symm (List.map_mergeSort (f := fun e : String × α => (e.1, f e)) ?_)
  exact fun _ _ _ _ => rfl

end ByName

/-- Sorted entries that hold under each name what stands last in a list under that name. -/
def Collects (entries : List (String × α)) (m : Sorted α) : Prop :=
  m.Increasing ∧ ∀ key, find? key m = entries.reverse.lookup key

theorem lookup_cons_eq_ite (key name : String) (value : α) (m : List (String × α)) :
    List.lookup key ((name, value) :: m) =
      if key = name then some value else List.lookup key m := by
  by_cases h : key = name
  · simp [h]
  · rw [List.lookup_cons, beq_false_of_ne h, if_neg h]

theorem lookup_eq_none_iff_not_mem {m : List (String × α)} :
    List.lookup key m = none ↔ key ∉ m.map Prod.fst := by
  rw [List.lookup_eq_none_iff, List.mem_map]
  constructor
  · rintro h ⟨e, he, rfl⟩
    exact bne_iff_ne.mp (h e he) rfl
  · intro h e he
    exact bne_iff_ne.mpr fun hkey => h ⟨e, he, hkey.symm⟩

theorem find?_insert (key name : String) (value : α) (m : Sorted α) :
    find? key (insert name value m) = if key = name then some value else find? key m := by
  simp only [find?]
  induction m with
  | nil => rw [insert, lookup_cons_eq_ite]
  | cons e m ih =>
    obtain ⟨k, v⟩ := e
    rw [insert]
    split
    case isTrue => rw [lookup_cons_eq_ite]
    case isFalse =>
      split
      case isTrue hname =>
        subst hname
        simp only [lookup_cons_eq_ite]
        split <;> rfl
      case isFalse hname =>
        rw [lookup_cons_eq_ite, ih, lookup_cons_eq_ite]
        split
        case isTrue hkey => rw [if_neg fun h => hname (h.symm.trans hkey)]
        case isFalse => rfl

theorem mem_insert {e : String × α} (h : e ∈ insert name value m) : e = (name, value) ∨ e ∈ m := by
  induction m with
  | nil => exact .inl (List.mem_singleton.mp h)
  | cons e' m ih =>
    rw [insert] at h
    split at h
    case isTrue => exact List.mem_cons.mp h
    case isFalse =>
      split at h
      case isTrue =>
        exact (List.mem_cons.mp h).imp_right (List.mem_cons_of_mem _)
      case isFalse =>
        obtain rfl | h := List.mem_cons.mp h
        · exact .inr List.mem_cons_self
        · exact (ih h).imp_right (List.mem_cons_of_mem _)

theorem Increasing.insert (h : m.Increasing) (name : String) (value : α) :
    (insert name value m).Increasing := by
  induction m with
  | nil => exact List.pairwise_singleton _ _
  | cons e m ih =>
    obtain ⟨hlt, hm⟩ := List.pairwise_cons.mp h
    rw [Sorted.insert]
    split
    case isTrue hname =>
      refine List.pairwise_cons.mpr ⟨fun e' he' => ?_, h⟩
      obtain rfl | he' := List.mem_cons.mp he'
      · exact hname
      · exact hname.trans (hlt e' he')
    case isFalse hname =>
      split
      case isTrue heq =>
        subst heq
        exact List.pairwise_cons.mpr ⟨hlt, hm⟩
      case isFalse hne =>
        refine List.pairwise_cons.mpr ⟨fun e' he' => ?_, ih hm⟩
        obtain rfl | he' := mem_insert he'
        · exact lt_of_le_of_ne (not_lt.mp hname) (Ne.symm hne)
        · exact hlt e' he'

theorem collects_ofList (entries : List (String × α)) : Collects entries (ofList entries) := by
  induction entries using List.reverseRecOn with
  | nil => exact ⟨List.Pairwise.nil, fun _ => rfl⟩
  | append_singleton entries e ih =>
    obtain ⟨hincreasing, hfind⟩ := ih
    have hofList : ofList (entries ++ [e]) = insert e.1 e.2 (ofList entries) := by
      rw [ofList, List.foldl_append]
      rfl
    refine ⟨hofList ▸ hincreasing.insert e.1 e.2, fun key => ?_⟩
    rw [hofList, find?_insert, hfind, List.reverse_append, List.reverse_singleton,
      List.singleton_append, lookup_cons_eq_ite]

theorem find?_eq_none_of_lt (h : ∀ e ∈ m, key < e.1) : find? key m = none := by
  rw [find?, List.lookup_eq_none_iff]
  intro e he
  exact bne_iff_ne.mpr (h e he).ne

theorem find?_head (name : String) (value : α) (m : Sorted α) :
    find? name ((name, value) :: m) = some value := by
  rw [find?, lookup_cons_eq_ite, if_pos rfl]

/-- A name below the least one has no entry. -/
theorem Increasing.find?_of_lt {e : String × α} (h : Increasing (e :: m)) (hkey : key < e.1) :
    find? key (e :: m) = none := by
  obtain ⟨hlt, -⟩ := List.pairwise_cons.mp h
  refine find?_eq_none_of_lt fun d hd => ?_
  obtain rfl | hd := List.mem_cons.mp hd
  · exact hkey
  · exact hkey.trans (hlt d hd)

/-- The entries are what stands under their names. -/
theorem Increasing.find?_eq_some_iff (h : m.Increasing) :
    find? key m = some value ↔ (key, value) ∈ m := by
  induction m with
  | nil => simp [find?]
  | cons e m ih =>
    obtain ⟨name, first⟩ := e
    obtain ⟨hlt, hm⟩ := List.pairwise_cons.mp h
    have ih : List.lookup key m = some value ↔ (key, value) ∈ m := ih hm
    rw [find?, lookup_cons_eq_ite, List.mem_cons, Prod.mk.injEq]
    split
    next hkey =>
      subst hkey
      have hbehind : (key, value) ∉ m := fun hmem => (hlt _ hmem).ne rfl
      simp [hbehind, eq_comm]
    next hkey => simp [hkey, ih]

/-- Sorted entries are equal if they hold the same under each name. -/
theorem Increasing.ext (h : m.Increasing) (h' : m'.Increasing)
    (heq : ∀ key, find? key m = find? key m') : m = m' := by
  induction m generalizing m' with
  | nil =>
    cases m' with
    | nil => rfl
    | cons e m' =>
      have hhead := heq e.1
      rw [find?_head] at hhead
      cases hhead
  | cons e m ih =>
    cases m' with
    | nil =>
      have hhead := heq e.1
      rw [find?_head] at hhead
      cases hhead
    | cons e' m' =>
      obtain ⟨hlt, hm⟩ := List.pairwise_cons.mp h
      obtain ⟨hlt', hm'⟩ := List.pairwise_cons.mp h'
      -- either list holds the least name of the other, so the least names agree
      have hname : e.1 = e'.1 := by
        rcases lt_trichotomy e.1 e'.1 with hless | hsame | hless
        · have hhead := heq e.1
          rw [find?_head, h'.find?_of_lt hless] at hhead
          cases hhead
        · exact hsame
        · have hhead := heq e'.1
          rw [find?_head, h.find?_of_lt hless] at hhead
          cases hhead
      obtain ⟨k, v⟩ := e
      obtain ⟨k', v'⟩ := e'
      obtain rfl : k = k' := hname
      have hvalue := heq k
      rw [find?_head, find?_head] at hvalue
      obtain rfl := Option.some.inj hvalue
      refine congrArg _ (ih hm hm' fun key => ?_)
      by_cases hkey : key = k
      · subst hkey
        rw [find?_eq_none_of_lt hlt, find?_eq_none_of_lt hlt']
      · have htail := heq key
        simpa only [find?, lookup_cons_eq_ite, if_neg hkey] using htail

theorem collects_iff : Collects entries m ↔ m = ofList entries := by
  have hofList := collects_ofList entries
  constructor
  · intro h
    exact h.1.ext hofList.1 fun key => (h.2 key).trans (hofList.2 key).symm
  · rintro rfl
    exact hofList

end HomeAgents.Sorted
