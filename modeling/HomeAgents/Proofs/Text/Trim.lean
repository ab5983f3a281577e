import HomeAgents.Text.Blank
import Mathlib.Data.List.DropRight
import Mathlib.Data.List.TakeWhile

/-!
# The removal of blanks

A trimmed text is what stands between the blanks at both ends, and it is the only such part that
neither begins nor ends with a blank.
-/

namespace HomeAgents.Text

variable {cs lead middle trail : List Char}

/-- A text is its trimmed text between blanks. -/
theorem trimChars_split (cs : List Char) :
    ∃ lead trail, cs = lead ++ (trimChars cs ++ trail) ∧ (∀ c ∈ lead, isBlank c = true) ∧
      ∀ c ∈ trail, isBlank c = true := by
  have hlead := List.takeWhile_append_dropWhile (p := isBlank) (l := cs)
  have htrail := List.takeWhile_append_dropWhile (p := isBlank)
    (l := (cs.dropWhile isBlank).reverse)
  refine ⟨cs.takeWhile isBlank, ((cs.dropWhile isBlank).reverse.takeWhile isBlank).reverse,
    ?_, fun c hc => List.mem_takeWhile_imp hc,
    fun c hc => List.mem_takeWhile_imp (List.mem_reverse.mp hc)⟩
  rw [trimChars, ← List.reverse_append, htrail, List.reverse_reverse, hlead]

theorem dropWhile_isBlank (h : ∀ c ∈ lead, isBlank c = true)
    (hcs : ∀ c ∈ cs.head?, isBlank c = false) :
    (lead ++ cs).dropWhile isBlank = cs := by
  rw [List.dropWhile_append_of_pos h]
  cases cs with
  | nil => rfl
  | cons c cs => rw [List.dropWhile_cons_of_neg (Bool.eq_false_iff.mp (hcs c rfl))]

/-- What stands between blanks, and neither begins nor ends with one, is the trimmed text. -/
theorem trimChars_between {c d : Char} (hlead : ∀ c ∈ lead, isBlank c = true)
    (hfirst : isBlank c = false) (hlast : isBlank d = false)
    (htrail : ∀ c ∈ trail, isBlank c = true) :
    trimChars (lead ++ (c :: (middle ++ [d]) ++ trail)) = c :: (middle ++ [d]) := by
  have hfront : (lead ++ (c :: (middle ++ [d]) ++ trail)).dropWhile isBlank =
      c :: (middle ++ [d]) ++ trail := by
    refine dropWhile_isBlank hlead ?_
    rintro _ ⟨⟩
    exact hfirst
  have hback : (trail.reverse ++ (d :: (middle.reverse ++ [c]))).dropWhile isBlank =
      d :: (middle.reverse ++ [c]) := by
    refine dropWhile_isBlank (fun c hc => htrail c (List.mem_reverse.mp hc)) ?_
    rintro _ ⟨⟩
    exact hlast
  have hreverse : (c :: (middle ++ [d]) ++ trail).reverse =
      trail.reverse ++ (d :: (middle.reverse ++ [c])) := by simp
  rw [trimChars, hfront, hreverse, hback]
  simp

/-- Blanks at the end of two texts are those of the second, unless it has nothing else. -/
theorem rdropWhile_append (p : Char → Bool) (cs cs' : List Char) :
    (cs ++ cs').rdropWhile p =
      if cs'.rdropWhile p = [] then cs.rdropWhile p else cs ++ cs'.rdropWhile p := by
  rw [List.rdropWhile, List.reverse_append, List.dropWhile_append]
  by_cases h : cs'.rdropWhile p = []
  · have hnone : (cs'.reverse.dropWhile p).isEmpty = true := by simpa [List.rdropWhile] using h
    rw [if_pos hnone, if_pos h]
    rfl
  · have hsome : ¬ (cs'.reverse.dropWhile p).isEmpty = true := by simpa [List.rdropWhile] using h
    rw [if_neg hsome, if_neg h, List.reverse_append, List.reverse_reverse]
    rfl

/-- Without the blanks at its end a text is its trimmed text behind blanks. -/
theorem rdropWhile_isBlank (cs : List Char) :
    ∃ lead, cs.rdropWhile isBlank = lead ++ trimChars cs ∧ ∀ c ∈ lead, isBlank c = true := by
  have hsplit := List.takeWhile_append_dropWhile (p := isBlank) (l := cs)
  have hlead : ∀ c ∈ cs.takeWhile isBlank, isBlank c = true := fun c hc => List.mem_takeWhile_imp hc
  have htrim : trimChars cs = (cs.dropWhile isBlank).rdropWhile isBlank := rfl
  have happend := rdropWhile_append isBlank (cs.takeWhile isBlank) (cs.dropWhile isBlank)
  rw [hsplit] at happend
  by_cases h : trimChars cs = []
  · rw [if_pos (htrim ▸ h), List.rdropWhile_eq_nil_iff.mpr hlead] at happend
    exact ⟨[], by rw [happend, h]; rfl, fun c hc => absurd hc List.not_mem_nil⟩
  · rw [if_neg (htrim ▸ h), ← htrim] at happend
    exact ⟨_, happend, hlead⟩

theorem trimChars_trimChars (cs : List Char) : trimChars (trimChars cs) = trimChars cs := by
  have htrim : trimChars cs = (cs.dropWhile isBlank).rdropWhile isBlank := rfl
  have hfront : (trimChars cs).dropWhile isBlank = trimChars cs := by
    rw [List.dropWhile_eq_self_iff]
    intro hpos
    -- the first character is that of the text without the blanks in front
    have hbegin : trimChars cs <+: cs.dropWhile isBlank := List.rdropWhile_prefix _ _
    rw [hbegin.getElem]
    exact List.dropWhile_get_zero_not isBlank cs _
  have hback : (trimChars cs).rdropWhile isBlank = trimChars cs := by
    rw [htrim, List.rdropWhile_idempotent]
  calc trimChars (trimChars cs) = ((trimChars cs).dropWhile isBlank).rdropWhile isBlank := rfl
    _ = trimChars cs := by rw [hfront, hback]

end HomeAgents.Text
