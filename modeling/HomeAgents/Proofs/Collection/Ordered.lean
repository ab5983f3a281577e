import HomeAgents.Collection.Ordered
import HomeAgents.Proofs.Collection.Sorted
import Mathlib.Data.List.Nodup

/-!
# Entries in their order

Names that differ are kept in the order in which they are set. Setting a name that is there changes
its entry where it stands.
-/

namespace HomeAgents

/-- One more element counts if it is not there yet. -/
theorem eraseDups_append_singleton {α : Type} [DecidableEq α] (xs : List α) (x : α) :
    (xs ++ [x]).eraseDups = if x ∈ xs then xs.eraseDups else xs.eraseDups ++ [x] := by
  rw [List.eraseDups_append]
  by_cases h : x ∈ xs
  · simp [List.removeAll, h]
  · simp [List.removeAll, h, List.eraseDups_cons]

theorem nodup_eraseDups {α : Type} [DecidableEq α] (xs : List α) : xs.eraseDups.Nodup := by
  induction xs using List.reverseRecOn with
  | nil => exact List.nodup_nil
  | append_singleton xs x ih =>
    rw [eraseDups_append_singleton]
    split
    next => exact ih
    next h =>
      refine List.nodup_append.mpr ⟨ih, List.nodup_singleton x, fun a ha b hb => ?_⟩
      rintro rfl
      exact h (List.mem_eraseDups.mp (List.mem_singleton.mp hb ▸ ha))

namespace Ordered

variable {α : Type} {name : String} {value : α} {m : Ordered α}

theorem insert_of_not_mem (h : name ∉ m.map Prod.fst) :
    insert name value m = m ++ [(name, value)] := by
  induction m with
  | nil => rfl
  | cons e m ih =>
    rw [List.map_cons, List.mem_cons, not_or] at h
    rw [insert, if_neg h.1, ih h.2]
    rfl

/-- Entries of different names are their own collection. -/
theorem ofList_eq_self (h : (m.map Prod.fst).Nodup) : ofList m = m := by
  induction m using List.reverseRecOn with
  | nil => rfl
  | append_singleton m e ih =>
    rw [List.map_append, List.nodup_append] at h
    obtain ⟨hm, -, hnew⟩ := h
    have hfold : ofList (m ++ [e]) = insert e.1 e.2 (ofList m) := by
      rw [ofList, List.foldl_append]
      rfl
    rw [hfold, ih hm]
    exact insert_of_not_mem fun he => hnew _ he _ (List.mem_singleton_self e.1) rfl

theorem distinct_eq_self [DecidableEq α] {xs : List α} (h : xs.Nodup) : distinct xs = xs := by
  induction xs using List.reverseRecOn with
  | nil => rfl
  | append_singleton xs x ih =>
    obtain ⟨hxs, -, hnew⟩ := List.nodup_append.mp h
    have hfold : distinct (xs ++ [x]) =
        if x ∈ distinct xs then distinct xs else distinct xs ++ [x] := by
      rw [distinct, List.foldl_append]
      rfl
    rw [hfold, ih hxs]
    exact if_neg fun hx => hnew x hx x (List.mem_singleton_self x) rfl

theorem find?_eq_some_iff (h : (m.map Prod.fst).Nodup) :
    find? name m = some value ↔ (name, value) ∈ m := by
  induction m with
  | nil => simp [find?]
  | cons e m ih =>
    obtain ⟨key, first⟩ := e
    obtain ⟨hkey, hm⟩ := List.nodup_cons.mp h
    have ih : List.lookup name m = some value ↔ (name, value) ∈ m := ih hm
    rw [find?, Sorted.lookup_cons_eq_ite, List.mem_cons, Prod.mk.injEq]
    split
    next hname =>
      subst hname
      have hbehind : (name, value) ∉ m := fun hmem =>
        hkey (List.mem_map.mpr ⟨(name, value), hmem, rfl⟩)
      simp [hbehind, eq_comm]
    next hname => simp [hname, ih]

/-- Where names differ, their order has no part in what stands under them. -/
theorem find?_eq_of_perm {m' : Ordered α} (hm : (m.map Prod.fst).Nodup) (h : m'.Perm m)
    (name : String) : find? name m' = find? name m := by
  have hm' : (m'.map Prod.fst).Nodup := (h.map Prod.fst).nodup_iff.mpr hm
  refine Option.ext fun value => ?_
  rw [find?_eq_some_iff hm', find?_eq_some_iff hm, h.mem_iff]

section Tables

variable {names : List String} {f : String → α}

/-- In a table of the values of a function the entry of a name is its value. -/
theorem find?_table (name : String) :
    find? name (names.map fun n => (n, f n)) = if name ∈ names then some (f name) else none := by
  induction names with
  | nil => rfl
  | cons n names ih =>
    rw [find?] at ih ⊢
    rw [List.map_cons, Sorted.lookup_cons_eq_ite, ih]
    by_cases h : name = n
    · simp [h]
    · simp [h]

theorem insert_table (hnames : names.Nodup) (h : name ∈ names) :
    insert name value (names.map fun n => (n, f n)) =
      names.map fun n => (n, if n = name then value else f n) := by
  induction names with
  | nil => cases h
  | cons n names ih =>
    obtain ⟨hn, hnames⟩ := List.nodup_cons.mp hnames
    rw [List.map_cons, List.map_cons, insert]
    by_cases heq : name = n
    · subst heq
      rw [if_pos rfl, if_pos rfl]
      refine congrArg _ (List.map_congr_left fun other hother => ?_)
      have hne : other ≠ name := ne_of_mem_of_not_mem hother hn
      rw [if_neg hne]
    · rw [if_neg heq, if_neg (Ne.symm heq), ih hnames ((List.mem_cons.mp h).resolve_left heq)]

end Tables

end Ordered

end HomeAgents
