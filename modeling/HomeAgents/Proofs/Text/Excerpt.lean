import HomeAgents.Proofs.Text.Lines
import HomeAgents.Proofs.Text.Trim
import HomeAgents.Text.Excerpt
import Mathlib.Algebra.BigOperators.Group.List.Basic
import Mathlib.Algebra.Order.Ring.Int

/-!
# How long excerpts are

An excerpt of at most `max` characters is the whole trimmed text, and cutting off at `max` adds no
more than an ellipsis. A text of many lines is cut down to five lines, and these are kept whole: the
excerpt grows with them, and with nothing else.
-/

namespace HomeAgents.Text

variable {s : String} {max : Nat}

/-- A text that is cut down to its first and last lines: it is too long and has many lines. -/
def IsCutDown (s : String) (max : Nat) : Prop :=
  max < (trim s).length ∧ 6 < (lines (trim s)).length

/-- The lines that are kept of a text that is cut down. -/
def keptLines (s : String) : List String :=
  (lines (trim s)).take 3 ++ (lines (trim s)).drop ((lines (trim s)).length - 2)

/-- The characters of several lines together. -/
def charactersOf (ls : List String) : Nat :=
  (ls.map String.length).sum

theorem charactersOf_append (ls ls' : List String) :
    charactersOf (ls ++ ls') = charactersOf ls + charactersOf ls' := by
  rw [charactersOf, List.map_append, List.sum_append, charactersOf, charactersOf]

theorem length_intercalate (sep : String) {parts : List String} (h : parts ≠ []) :
    (sep.intercalate parts).length + sep.length =
      charactersOf parts + parts.length * sep.length := by
  induction parts with
  | nil => exact absurd rfl h
  | cons part parts ih =>
    by_cases hparts : parts = []
    · simp [hparts, charactersOf]
    · have ih := ih hparts
      have hsum : charactersOf (part :: parts) = part.length + charactersOf parts := by
        simp [charactersOf]
      rw [String.intercalate_cons_of_ne_nil hparts, String.length_append, String.length_append,
        hsum, List.length_cons, Nat.succ_mul]
      omega

theorem length_trim_le (s : String) : (trim s).length ≤ s.length := by
  obtain ⟨lead, trail, hsplit, -⟩ := trimChars_split s.toList
  have hlength := congrArg List.length hsplit
  simp only [List.length_append, String.length_toList] at hlength
  rw [trim, String.length_ofList]
  omega

theorem length_lines_trim_le (s : String) : (lines (trim s)).length ≤ s.length := by
  have hlines := (hasLines_lineChars (trim s).toList).length_le
  rw [String.length_toList] at hlines
  rw [lines, List.length_map]
  exact hlines.trans (length_trim_le s)

theorem length_truncate_le (s : String) (max : Nat) : (truncate s max).length ≤ max + 3 := by
  have hdots : "...".toList.length = 3 := rfl
  rw [truncate, String.length_ofList, truncateChars]
  split
  next hshort => omega
  next =>
    rw [List.length_append, hdots]
    exact Nat.add_le_add_right (List.length_take_le _ _) 3

theorem condense_of_le (h : (trim s).length ≤ max) : condense s max = trim s := by
  rw [condense, if_pos h]

/-- Only a text that is cut down by lines can have a longer excerpt than one that is cut off. -/
theorem length_condense_le (h : ¬ IsCutDown s max) : (condense s max).length ≤ max + 3 := by
  by_cases hlong : (trim s).length ≤ max
  · rw [condense_of_le hlong]
    omega
  · have hfew : (lines (trim s)).length ≤ 6 :=
      Nat.le_of_not_lt fun hmany => h ⟨Nat.lt_of_not_le hlong, hmany⟩
    rw [condense, if_neg hlong]
    dsimp only
    rw [if_pos hfew]
    exact length_truncate_le _ _

/-- The excerpt of a text that is cut down has the lines that are kept and, between them, a note
with the number of the others. -/
theorem length_condense (h : IsCutDown s max) :
    (condense s max).length =
      charactersOf (keptLines s) + 23 + (toString ((lines (trim s)).length - 5)).length := by
  obtain ⟨hlong, hmany⟩ := h
  rw [condense, if_neg (Nat.not_le_of_lt hlong), keptLines]
  dsimp only
  rw [if_neg (Nat.not_le_of_lt hmany)]
  generalize lines (trim s) = ls at hmany ⊢
  have hnewline : "\n".length = 1 := rfl
  have hbefore : "\n  ... (".length = 8 := rfl
  have hbehind : " lines) ...\n".length = 12 := rfl
  have htake : (ls.take 3).length = 3 := by rw [List.length_take]; omega
  have hdrop : (ls.drop (ls.length - 2)).length = 2 := by rw [List.length_drop]; omega
  have htake_ne : ls.take 3 ≠ [] := List.ne_nil_of_length_pos (by omega)
  have hdrop_ne : ls.drop (ls.length - 2) ≠ [] := List.ne_nil_of_length_pos (by omega)
  have hfirst := length_intercalate "\n" htake_ne
  have hlast := length_intercalate "\n" hdrop_ne
  rw [htake, hnewline] at hfirst
  rw [hdrop, hnewline] at hlast
  simp only [String.length_append, charactersOf_append, hbefore, hbehind]
  omega

section LongLine

variable {n : Nat}

/-- Seven lines, the first with some letters and the others with one. -/
def longLine (n : Nat) : String :=
  String.ofList (List.replicate n 'a' ++ "\nb\nb\nb\nb\nb\nb".toList)

theorem trim_longLine (h : 0 < n) : trim (longLine n) = longLine n := by
  obtain ⟨n, rfl⟩ := Nat.exists_eq_succ_of_ne_zero h.ne'
  have hends : List.replicate (n + 1) 'a' ++ "\nb\nb\nb\nb\nb\nb".toList =
      [] ++ ('a' :: (List.replicate n 'a' ++ "\nb\nb\nb\nb\nb\n".toList ++ ['b']) ++ []) := by
    simp [List.replicate_succ]
  have hblank : ∀ c ∈ ([] : List Char), isBlank c = true := List.forall_mem_nil _
  rw [trim, longLine, String.toList_ofList, hends,
    trimChars_between hblank (by decide) (by decide) hblank, List.nil_append, List.append_nil]

theorem lines_longLine (n : Nat) :
    lines (longLine n) = String.ofList (List.replicate n 'a') :: List.replicate 6 "b" := by
  have hline : '\n' ∉ List.replicate n 'a' := by simp [List.mem_replicate]
  have hreturn : (List.replicate n 'a').getLast? ≠ some '\r' := by
    simp [List.getLast?_replicate]
  have hsplit : "\nb\nb\nb\nb\nb\nb".toList = '\n' :: "b\nb\nb\nb\nb\nb".toList := by decide
  have hrest : lineChars "b\nb\nb\nb\nb\nb".toList = List.replicate 6 ['b'] := by decide
  rw [lines, longLine, String.toList_ofList, hsplit, lineChars_feed hline, hrest,
    closeLine_reverse hreturn]
  rfl

theorem length_longLine (n : Nat) : (longLine n).length = n + 12 := by
  rw [longLine, String.length_ofList, List.length_append, List.length_replicate]
  rfl

theorem isCutDown_longLine (h : max < n) : IsCutDown (longLine n) max := by
  rw [IsCutDown, trim_longLine (Nat.zero_lt_of_lt h), lines_longLine, length_longLine]
  exact ⟨by omega, by simp⟩

theorem charactersOf_longLine (h : 0 < n) : charactersOf (keptLines (longLine n)) = n + 4 := by
  have hkept : keptLines (longLine n) =
      String.ofList (List.replicate n 'a') :: List.replicate 4 "b" := by
    rw [keptLines, trim_longLine h, lines_longLine]
    rfl
  have hletter : "b".length = 1 := rfl
  simp [hkept, charactersOf, hletter]

end LongLine

/-- An excerpt is bounded but for the lines that are kept. It has at most `max` characters and an
ellipsis, or else the characters of the kept lines and 24 to 43 others. -/
theorem condense_bounded (s : String) (max : Nat) (hsize : s.length < 2 ^ 64) :
    (¬ IsCutDown s max → (condense s max).length ≤ max + 3) ∧
      (IsCutDown s max → charactersOf (keptLines s) + 24 ≤ (condense s max).length ∧
        (condense s max).length ≤ charactersOf (keptLines s) + 43) := by
  refine ⟨length_condense_le, fun h => ?_⟩
  rw [length_condense h]
  have hlines : (lines (trim s)).length - 5 < 10 ^ 20 := by
    have hle := length_lines_trim_le s
    omega
  have hsome : 0 < (toString ((lines (trim s)).length - 5)).length := Nat.length_repr_pos
  have hdigits : (toString ((lines (trim s)).length - 5)).length ≤ 20 :=
    (Nat.length_repr_le_iff (by decide)).mpr hlines
  omega

/-- A first line of 400 letters is kept, though 300 characters are asked for. -/
theorem condense_bounded_longLine :
    (longLine 400).length < 2 ^ 64 ∧ IsCutDown (longLine 400) 300 ∧
      428 ≤ (condense (longLine 400) 300).length ∧ (condense (longLine 400) 300).length ≤ 447 := by
  have hsize : (longLine 400).length < 2 ^ 64 := by
    rw [length_longLine]
    decide
  have hcut : IsCutDown (longLine 400) 300 := isCutDown_longLine (by decide)
  obtain ⟨hatLeast, hatMost⟩ := (condense_bounded (longLine 400) 300 hsize).2 hcut
  rw [charactersOf_longLine (by decide)] at hatLeast hatMost
  exact ⟨hsize, hcut, hatLeast, hatMost⟩

/-- No bound holds for all texts: one long line among those that are kept breaks it. -/
theorem condense_unbounded : ¬ ∀ max, ∃ bound, ∀ s, (condense s max).length ≤ bound := by
  intro h
  obtain ⟨bound, hbound⟩ := h 300
  have hexcerpt := hbound (longLine (bound + 301))
  rw [length_condense (isCutDown_longLine (by omega)), charactersOf_longLine (by omega)] at hexcerpt
  omega

end HomeAgents.Text
