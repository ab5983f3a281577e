import HomeAgents.Proofs.Reply.Grammar
import HomeAgents.Reply.Tag

/-!
# Tags in a text

A tag has no blank in it, so none reaches across a blank: a text is searched for tags by searching
its parts between blanks. And a tag is read as it is written, whatever its value looks like, so tags
strewn into a text that has no opening bracket of its own are found again in their order.
-/

namespace HomeAgents.Tag

open Text

/-- A tag that can be written: its value is not empty, and it has neither blanks nor a closing
bracket. -/
structure Proper (t : Tag) : Prop where
  filled : t.value ≠ ""
  valued : ∀ c ∈ t.value.toList, c ≠ ']' ∧ isBlank c = false

/-- A tag as it is written. -/
def written (t : Tag) : String :=
  "[" ++ t.kind.label ++ ":" ++ t.value ++ "]"

/-- Tags with some text in front of them and behind each. -/
def strewn (lead : String) (parts : List (Tag × String)) : String :=
  lead ++ String.join (parts.map fun p => p.1.written ++ p.2)

variable {kind : TagKind} {t t' : Tag} {w : Char} {cs rest after : List Char}

section Reading

theorem toList_written (t : Tag) :
    t.written.toList = '[' :: t.kind.label.toList ++ [':'] ++ (t.value.toList ++ [']']) := by
  simp [written]

theorem isValueChar_iff {c : Char} : isValueChar c = true ↔ c ≠ ']' ∧ isBlank c = false := by
  simp [isValueChar]

theorem proper_iff : t.Proper ↔ t.value ≠ "" ∧ t.value.toList.all isValueChar = true := by
  rw [List.all_eq_true]
  exact ⟨fun h => ⟨h.filled, fun c hc => isValueChar_iff.mpr (h.valued c hc)⟩,
    fun h => ⟨h.1, fun c hc => isValueChar_iff.mp (h.2 c hc)⟩⟩

instance (t : Tag) : Decidable t.Proper :=
  decidable_of_iff _ proper_iff.symm

/-- A tag of a kind is read exactly where one is written. -/
theorem ofKind?_eq_some :
    ofKind? kind cs = some (t, after) ↔
      t.kind = kind ∧ t.Proper ∧ cs = t.written.toList ++ after := by
  constructor
  · intro h
    unfold ofKind? at h
    split at h
    next => cases h
    next rest hrest =>
      have hcs := Reply.behind?_eq_some.mp hrest
      split at h
      next v vs _ hvalue hbehind =>
        cases h
        have hsplit := rest.takeWhile_append_dropWhile (p := isValueChar)
        rw [hvalue, hbehind] at hsplit
        refine ⟨rfl, ⟨by simp, fun c hc => ?_⟩, ?_⟩
        · rw [String.toList_ofList, ← hvalue] at hc
          exact isValueChar_iff.mp (List.mem_takeWhile_imp hc)
        · rw [hcs, ← hsplit, toList_written, String.toList_ofList]
          simp
      next => cases h
  · rintro ⟨rfl, ⟨hfilled, hvalued⟩, rfl⟩
    have hvalue : ∀ c ∈ t.value.toList, isValueChar c = true :=
      fun c hc => isValueChar_iff.mpr (hvalued c hc)
    have hbehind : Reply.behind? ('[' :: t.kind.label.toList ++ [':'])
        (t.written.toList ++ after) = some (t.value.toList ++ ']' :: after) :=
      Reply.behind?_eq_some.mpr (by simp [toList_written])
    have htake : (t.value.toList ++ ']' :: after).takeWhile isValueChar = t.value.toList := by
      rw [List.takeWhile_append_of_pos hvalue]
      simp [isValueChar]
    have hdrop : (t.value.toList ++ ']' :: after).dropWhile isValueChar = ']' :: after := by
      rw [List.dropWhile_append_of_pos hvalue]
      simp [isValueChar]
    obtain ⟨v, vs, hchars⟩ : ∃ v vs, t.value.toList = v :: vs :=
      List.exists_cons_of_ne_nil (String.toList_eq_nil_iff.not.mpr hfilled)
    have hstring : String.ofList (v :: vs) = t.value := by rw [← hchars, String.ofList_toList]
    simp only [ofKind?, hbehind, htake, hdrop]
    simp only [hchars, hstring]

/-- The labels of two kinds differ in their first character. -/
theorem kind_eq (h : t.written.toList ++ after = t'.written.toList ++ rest) :
    t.kind = t'.kind := by
  rw [toList_written, toList_written] at h
  cases hkind : t.kind <;> cases hkind' : t'.kind <;>
    first | rfl | simp [TagKind.label, hkind, hkind'] at h

/-- A tag is read exactly where one is written. -/
theorem at?_eq_some : at? cs = some (t, after) ↔ t.Proper ∧ cs = t.written.toList ++ after := by
  constructor
  · intro h
    unfold at? at h
    split at h
    next =>
      obtain ⟨kind, -, hkind⟩ := List.exists_of_findSome?_eq_some h
      exact (ofKind?_eq_some.mp hkind).2
    next => cases h
  · rintro ⟨hproper, rfl⟩
    have hread : ofKind? t.kind (t.written.toList ++ after) = some (t, after) :=
      ofKind?_eq_some.mpr ⟨rfl, hproper, rfl⟩
    have hhead : (t.written.toList ++ after).head? = some '[' := by simp [toList_written]
    rw [at?, if_pos hhead]
    cases hfind : TagKind.all.findSome? fun kind => ofKind? kind (t.written.toList ++ after) with
    | none =>
      have hkind : t.kind ∈ TagKind.all := by cases t.kind <;> decide
      have hnone := List.findSome?_eq_none_iff.mp hfind t.kind hkind
      rw [hread] at hnone
      cases hnone
    | some found =>
      -- what is found is of the same kind, so it is the same tag
      obtain ⟨kind, -, hkind⟩ := List.exists_of_findSome?_eq_some hfind
      obtain ⟨rfl, -, hwritten⟩ := ofKind?_eq_some.mp hkind
      rw [← kind_eq hwritten, hread] at hkind
      exact hkind.symm

/-- No tag is read at a character that opens none. -/
theorem at?_eq_none (h : w ≠ '[') : at? (w :: cs) = none := by
  rw [at?, if_neg]
  simpa using h

theorem at?_nil : at? [] = none := rfl

/-- A tag that is written has no blank in it. -/
theorem Proper.not_mem (h : t.Proper) (hw : isBlank w = true) : w ∉ t.written.toList := by
  have hmarks : ('[' :: t.kind.label.toList ++ [':']).all isValueChar = true := by
    cases t.kind <;> decide
  intro hmem
  rw [toList_written, List.mem_append, List.mem_append (s := t.value.toList),
    List.mem_singleton] at hmem
  rcases hmem with hmark | hvalue | rfl
  · rw [(isValueChar_iff.mp (List.all_eq_true.mp hmarks w hmark)).2] at hw
    cases hw
  · rw [(h.valued w hvalue).2] at hw
    cases hw
  · cases hw

end Reading

section Scanning

/-- A blank behind a text neither ends a tag nor lets one begin. -/
theorem at?_append_blank (hw : isBlank w = true) (cs rest : List Char) :
    at? (cs ++ w :: rest) = (at? cs).map fun found => (found.1, found.2 ++ w :: rest) := by
  refine Option.ext fun ⟨t, after⟩ => ?_
  rw [Option.map_eq_some_iff]
  constructor
  · intro h
    obtain ⟨hproper, hcs⟩ := at?_eq_some.mp h
    rcases List.append_eq_append_iff.mp hcs with ⟨behind, hwritten, hrest⟩ | ⟨behind, hcs, hafter⟩
    · -- the tag reaches as far as the blank, which it does not have
      cases behind with
      | nil =>
        rw [List.append_nil] at hwritten
        exact ⟨(t, []), at?_eq_some.mpr ⟨hproper, by rw [hwritten, List.append_nil]⟩,
          by rw [List.nil_append] at hrest; rw [hrest, List.nil_append]⟩
      | cons c behind =>
        obtain rfl : w = c := (List.cons.inj hrest).1
        exact absurd (hwritten ▸ List.mem_append_right cs List.mem_cons_self)
          (hproper.not_mem hw)
    · exact ⟨(t, behind), at?_eq_some.mpr ⟨hproper, hcs⟩, by rw [hafter]⟩
  · rintro ⟨⟨t', behind⟩, hread, heq⟩
    obtain ⟨rfl, rfl⟩ := Prod.mk.inj heq
    obtain ⟨hproper, rfl⟩ := at?_eq_some.mp hread
    exact at?_eq_some.mpr ⟨hproper, List.append_assoc ..⟩

theorem scan_of_some (h : at? cs = some (t, after)) : scan cs = t :: scan after := by
  rw [scan]
  split <;> simp_all

theorem scan_of_none {c : Char} (h : at? (c :: cs) = none) : scan (c :: cs) = scan cs := by
  rw [scan]
  split <;> simp_all

theorem scan_nil : scan [] = [] := by
  rw [scan]
  split <;> simp_all [at?_nil]

/-- The tags of two texts with a blank between them. -/
theorem scan_append_blank (hw : isBlank w = true) (cs rest : List Char) :
    scan (cs ++ w :: rest) = scan cs ++ scan rest := by
  have hread := at?_append_blank hw
  induction cs using scan.induct with
  | case1 cs t after hfound ih =>
    rw [scan_of_some hfound, scan_of_some (by rw [hread, hfound]; rfl), ih, List.cons_append]
  | case2 hnone =>
    rw [scan_nil, List.nil_append, List.nil_append, scan_of_none]
    simpa [at?_nil] using hread [] rest
  | case3 c cs hnone ih =>
    rw [scan_of_none hnone, List.cons_append, scan_of_none, ih]
    rw [← List.cons_append, hread, hnone]
    rfl

/-- A text without an opening bracket has no tags. -/
theorem scan_append_of_not_mem (h : '[' ∉ cs) (rest : List Char) :
    scan (cs ++ rest) = scan rest := by
  induction cs with
  | nil => rfl
  | cons c cs ih =>
    obtain ⟨hc, hcs⟩ := not_or.mp (List.mem_cons.not.mp h)
    rw [List.cons_append, scan_of_none (at?_eq_none (Ne.symm hc)), ih hcs]

/-- A tag that is written is read, and the search goes on behind it. -/
theorem scan_written (h : t.Proper) (rest : List Char) :
    scan (t.written.toList ++ rest) = t :: scan rest :=
  scan_of_some (at?_eq_some.mpr ⟨h, rfl⟩)

end Scanning

section Texts

/-- The tags of a text that consists of tags and what stands behind each. -/
theorem scan_parts {parts : List (Tag × String)}
    (h : ∀ p ∈ parts, p.1.Proper ∧ '[' ∉ p.2.toList) :
    scan (String.join (parts.map fun p => p.1.written ++ p.2)).toList = parts.map Prod.fst := by
  induction parts with
  | nil => exact scan_nil
  | cons p parts ih =>
    obtain ⟨⟨hproper, hbehind⟩, hparts⟩ := List.forall_mem_cons.mp h
    rw [List.map_cons, String.join_cons, String.toList_append, String.toList_append,
      List.append_assoc, scan_written hproper, scan_append_of_not_mem hbehind, ih hparts,
      List.map_cons]

/-- Two texts with a blank between them have the tags of the first and then those of the second. And
a text into which tags are strewn, and which has no opening bracket but theirs and those in their
values, has these tags in their order. -/
theorem ofText_composes :
    (∀ (a b : String) (w : Char), isBlank w = true →
      ofText (a ++ String.singleton w ++ b) = ofText a ++ ofText b) ∧
    ∀ (lead : String) (parts : List (Tag × String)), '[' ∉ lead.toList →
      (∀ p ∈ parts, p.1.Proper ∧ '[' ∉ p.2.toList) →
      ofText (strewn lead parts) = parts.map Prod.fst := by
  constructor
  · intro a b w hw
    have hchars : (a ++ String.singleton w ++ b).toList = a.toList ++ w :: b.toList := by simp
    rw [ofText, hchars, scan_append_blank hw]
    rfl
  · intro lead parts hlead hparts
    rw [ofText, strewn, String.toList_append, scan_append_of_not_mem hlead, scan_parts hparts]

/-- A tag that a wide blank breaks off, and behind the blank a tag with the beginning of another one
for its value. -/
theorem ofText_composes_broken :
    isBlank ' ' = true ∧
      ofText ("[FACE:ha" ++ String.singleton ' ' ++ "ppy] so [LED:[FACE:x]]") =
        [⟨.led, "[FACE:x"⟩] := by
  have hblank : isBlank ' ' = true := by decide
  have hbehind : ofText "ppy] so [LED:[FACE:x]]" = [⟨.led, "[FACE:x"⟩] := by
    refine ofText_composes.2 "ppy] so " [(⟨.led, "[FACE:x"⟩, "]")] (by decide) ?_
    exact List.forall_mem_singleton.mpr ⟨by decide, by decide⟩
  refine ⟨hblank, ?_⟩
  rw [ofText_composes.1 "[FACE:ha" _ _ hblank, hbehind]
  have hfront : ofText "[FACE:ha" = [] :=
    (scan_of_none (by decide)).trans (ofText_composes.2 "FACE:ha" [] (by decide) nofun)
  rw [hfront, List.nil_append]

end Texts

end HomeAgents.Tag
