import HomeAgents.Text.Lines
import Mathlib.Data.List.Basic

/-!
# Texts and their lines

A text is made of lines in exactly one way. Nothing of a line is lost but its ending: a line feed
with or without a carriage return before it, or the end of the text.
-/

namespace HomeAgents.Text

/-- A text is made of lines, in order. The last line may lack an ending if it is not empty. -/
inductive HasLines : List Char → List (List Char) → Prop
  | none : HasLines [] []
  | last {l : List Char} (hne : l ≠ []) (hl : '\n' ∉ l) : HasLines l [l]
  | feed {l rest : List Char} {ls : List (List Char)} (hl : '\n' ∉ l)
      (hreturn : l.getLast? ≠ some '\r') (hrest : HasLines rest ls) :
      HasLines (l ++ '\n' :: rest) (l :: ls)
  | returnFeed {l rest : List Char} {ls : List (List Char)} (hl : '\n' ∉ l)
      (hrest : HasLines rest ls) : HasLines (l ++ '\r' :: '\n' :: rest) (l :: ls)

variable {cs l rest : List Char} {ls : List (List Char)}

/-! ### The lines that are collected -/

theorem linesFrom_done (done : List (List Char)) (current cs : List Char) :
    linesFrom done current cs = done.reverse ++ linesFrom [] current cs := by
  induction cs generalizing done current with
  | nil =>
    rw [linesFrom, linesFrom]
    split <;> simp
  | cons c cs ih =>
    rw [linesFrom, linesFrom]
    split
    next =>
      rw [ih (closeLine current :: done), ih [closeLine current], List.reverse_cons,
        List.append_assoc]
      rfl
    next => exact ih done (c :: current)

theorem linesFrom_append (hl : '\n' ∉ l) (current rest : List Char) :
    linesFrom [] current (l ++ rest) = linesFrom [] (l.reverse ++ current) rest := by
  induction l generalizing current with
  | nil => rfl
  | cons c l ih =>
    obtain ⟨hc, hl⟩ := List.ne_and_not_mem_of_not_mem_cons hl
    rw [List.cons_append, linesFrom, if_neg (Ne.symm hc), ih hl, List.reverse_cons,
      List.append_assoc]
    rfl

theorem lineChars_of_not_mem (hl : '\n' ∉ l) : lineChars l = if l = [] then [] else [l] := by
  have h := linesFrom_append hl [] []
  rw [List.append_nil, List.append_nil] at h
  simp [lineChars, h, linesFrom]

/-- A line that ends at a line feed is closed and stands before the lines of the rest. -/
theorem lineChars_feed (hl : '\n' ∉ l) (rest : List Char) :
    lineChars (l ++ '\n' :: rest) = closeLine l.reverse :: lineChars rest := by
  rw [lineChars, linesFrom_append hl, List.append_nil, linesFrom, if_pos rfl, linesFrom_done]
  rfl

theorem closeLine_reverse (h : l.getLast? ≠ some '\r') : closeLine l.reverse = l := by
  unfold closeLine
  split
  next cs hcs =>
    obtain rfl : l = cs.reverse ++ ['\r'] := by rw [← List.reverse_reverse l, hcs]; simp
    exact absurd List.getLast?_concat h
  next => exact List.reverse_reverse l

theorem closeLine_return (l : List Char) : closeLine (l ++ ['\r']).reverse = l := by
  rw [List.reverse_append, List.reverse_singleton, List.singleton_append, closeLine,
    List.reverse_reverse]

/-! ### The only lines of a text -/

theorem HasLines.lineChars_eq (h : HasLines cs ls) : lineChars cs = ls := by
  induction h with
  | none => rfl
  | last hne hl => rw [lineChars_of_not_mem hl, if_neg hne]
  | feed hl hreturn hrest ih => rw [lineChars_feed hl, closeLine_reverse hreturn, ih]
  | @returnFeed l rest ls hl hrest ih =>
    have hline : '\n' ∉ l ++ ['\r'] := by simp [hl]
    rw [List.append_cons, lineChars_feed hline, closeLine_return, ih]

theorem hasLines_lineChars (cs : List Char) : HasLines cs (lineChars cs) := by
  -- on the length of the text: what stands behind the first line feed is shorter
  induction hn : cs.length using Nat.strongRecOn generalizing cs with
  | ind n ih =>
    by_cases hfeed : '\n' ∈ cs
    · obtain ⟨l, rest, rfl, hl⟩ := List.eq_append_cons_of_mem hfeed
      have hrest : HasLines rest (lineChars rest) := by
        refine ih rest.length ?_ rest rfl
        simp only [← hn, List.length_append, List.length_cons]
        omega
      by_cases hreturn : l.getLast? = some '\r'
      · obtain ⟨front, rfl⟩ := List.getLast?_eq_some_iff.mp hreturn
        have hfront : '\n' ∉ front := fun h => hl (List.mem_append_left _ h)
        rw [lineChars_feed hl, closeLine_return, List.append_assoc]
        exact .returnFeed hfront hrest
      · rw [lineChars_feed hl, closeLine_reverse hreturn]
        exact .feed hl hreturn hrest
    · rw [lineChars_of_not_mem hfeed]
      split
      next hempty => exact hempty ▸ .none
      next hne => exact .last hne hfeed

theorem hasLines_iff : HasLines cs ls ↔ lineChars cs = ls :=
  ⟨HasLines.lineChars_eq, fun h => h ▸ hasLines_lineChars cs⟩

/-! ### What lines are like -/

theorem HasLines.not_mem (h : HasLines cs ls) : ∀ l ∈ ls, '\n' ∉ l := by
  induction h with
  | none => exact fun l hl => absurd hl List.not_mem_nil
  | last hne hl => exact List.forall_mem_singleton.mpr hl
  | feed hl hreturn hrest ih => exact List.forall_mem_cons.mpr ⟨hl, ih⟩
  | returnFeed hl hrest ih => exact List.forall_mem_cons.mpr ⟨hl, ih⟩

/-- There are no more lines than characters. -/
theorem HasLines.length_le (h : HasLines cs ls) : ls.length ≤ cs.length := by
  induction h with
  | none => exact Nat.le_refl 0
  | @last l hne hl => exact List.length_pos_iff.mpr hne
  | feed hl hreturn hrest ih =>
    simp only [List.length_cons, List.length_append]
    omega
  | returnFeed hl hrest ih =>
    simp only [List.length_cons, List.length_append]
    omega

end HomeAgents.Text
