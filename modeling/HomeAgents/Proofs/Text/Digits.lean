import Mathlib.Data.Char
import Mathlib.Tactic.Ring

/-!
# Digits of a fixed width

A number is written in a fixed width with its last digits. Numbers that fit the width are in order
as their digits are, whatever stands behind them. Zeros at the end of digits may be left out: a mark
below all digits that stands behind them keeps the order.
-/

namespace HomeAgents.Text

variable {n n' width : Nat} {ds ds' : List Char}

theorem toList_pushn (c : Char) (n : Nat) : ("".pushn c n).toList = List.replicate n c := by
  induction n with
  | zero => rfl
  | succ n ih =>
    rw [String.pushn_eq_repeat_push] at ih ⊢
    rw [Nat.repeat, String.toList_push, ih, List.replicate_succ']

/-- The last digits of a number, so many of them. -/
def digitsOf : Nat → Nat → List Char
  | 0, _ => []
  | width + 1, n => digitsOf width (n / 10) ++ [(n % 10).digitChar]

@[simp]
theorem length_digitsOf (width n : Nat) : (digitsOf width n).length = width := by
  induction width generalizing n with
  | zero => rfl
  | succ width ih => rw [digitsOf, List.length_append, ih, List.length_singleton]

theorem isDigit_of_mem_digitsOf {c : Char} (h : c ∈ digitsOf width n) : c.isDigit = true := by
  induction width generalizing n with
  | zero => cases h
  | succ width ih =>
    rcases List.mem_append.mp h with h | h
    · exact ih h
    · rw [List.mem_singleton.mp h, Nat.isDigit_digitChar]
      exact decide_eq_true (Nat.mod_lt n (by decide))

/-- Without its last digit a number fits a width that is smaller by one. -/
theorem div_ten_lt (h : n < 10 ^ (width + 1)) : n / 10 < 10 ^ width := by
  rw [Nat.div_lt_iff_lt_mul (by decide), ← Nat.pow_succ]
  exact h

theorem digitsOf_add (width more n : Nat) :
    digitsOf (width + more) n = digitsOf width (n / 10 ^ more) ++ digitsOf more n := by
  induction more generalizing n with
  | zero => simp [digitsOf]
  | succ more ih =>
    rw [← Nat.add_assoc, digitsOf, ih, digitsOf, List.append_assoc, Nat.div_div_eq_div_mul,
      ← Nat.pow_succ']

theorem digitsOf_of_dvd (h : 10 ^ width ∣ n) : digitsOf width n = List.replicate width '0' := by
  induction width generalizing n with
  | zero => rfl
  | succ width ih =>
    obtain ⟨m, rfl⟩ := h
    have hlast : 10 ^ (width + 1) * m = 10 * (10 ^ width * m) := by ring
    rw [digitsOf, hlast, Nat.mul_div_cancel_left _ (by decide), Nat.mul_mod_right,
      ih (Nat.dvd_mul_right _ m), List.replicate_succ']
    rfl

/-- A number that fits the width is written with zeros before it. -/
theorem replicate_append_toDigits (hn : n < 10 ^ width) (hwidth : 0 < width) :
    List.replicate (width - (Nat.toDigits 10 n).length) '0' ++ Nat.toDigits 10 n =
      digitsOf width n := by
  induction width generalizing n with
  | zero => cases hwidth
  | succ width ih =>
    rcases Nat.lt_or_ge n 10 with hsmall | hlarge
    · rw [Nat.toDigits_of_lt_base hsmall, digitsOf, Nat.div_eq_of_lt hsmall,
        Nat.mod_eq_of_lt hsmall, digitsOf_of_dvd (Nat.dvd_zero _)]
      rfl
    · have hsome : 0 < width := by
        refine Nat.pos_of_ne_zero fun hzero => ?_
        subst hzero
        omega
      rw [Nat.toDigits_of_base_le (by decide) hlarge, digitsOf, ← ih (div_ten_lt hn) hsome,
        List.length_append, List.length_singleton, Nat.add_sub_add_right, List.append_assoc]

section Order

theorem digitChar_lt {a b : Nat} (h : a < b) (hb : b < 10) : a.digitChar < b.digitChar := by
  rw [Char.lt_def, UInt32.lt_iff_toNat_lt]
  change a.digitChar.toNat < b.digitChar.toNat
  rw [Nat.toNat_digitChar_of_lt_ten (h.trans hb), Nat.toNat_digitChar_of_lt_ten hb]
  omega

/-- The smaller of two numbers comes first, whatever stands behind their digits. -/
theorem digitsOf_append_lt (h : n < n') (hn' : n' < 10 ^ width) (cs cs' : List Char) :
    digitsOf width n ++ cs < digitsOf width n' ++ cs' := by
  induction width generalizing n n' cs cs' with
  | zero =>
    rw [Nat.pow_zero] at hn'
    omega
  | succ width ih =>
    simp only [digitsOf, List.append_assoc, List.singleton_append]
    rcases Nat.lt_or_ge (n / 10) (n' / 10) with hless | hmore
    · exact ih hless (div_ten_lt hn') _ _
    · have hsame : n / 10 = n' / 10 := by omega
      rw [hsame]
      refine List.append_left_lt (List.cons_lt_cons_iff.mpr (.inl (digitChar_lt ?_ ?_))) <;> omega

theorem not_lt_replicate_zero (h : ∀ d ∈ ds, '0' ≤ d) (hlength : ds.length = n) :
    ¬ ds < List.replicate n '0' := by
  induction ds generalizing n with
  | nil =>
    subst hlength
    exact List.not_lt_nil _
  | cons d ds ih =>
    obtain ⟨hd, hds⟩ := List.forall_mem_cons.mp h
    subst hlength
    rw [List.length_cons, List.replicate_succ, List.cons_lt_cons_iff]
    rintro (hlt | ⟨-, hlt⟩)
    · exact absurd hlt (Char.not_lt.mpr hd)
    · exact ih hds rfl hlt

/-- Digits without the zeros at their end are in the same order as with them, if a mark below all
digits stands behind them. -/
theorem trimmed_lt {zeros zeros' : Nat} {mark : Char} (hmark : mark < '0')
    (hds : ∀ d ∈ ds, '0' ≤ d) (hds' : ∀ d ∈ ds', '0' ≤ d)
    (hlength : ds.length + zeros = ds'.length + zeros')
    (h : ds ++ List.replicate zeros '0' < ds' ++ List.replicate zeros' '0') (cs cs' : List Char) :
    ds ++ mark :: cs < ds' ++ mark :: cs' := by
  induction ds generalizing ds' with
  | nil =>
    cases ds' with
    | nil =>
      have hsame : zeros = zeros' := by simpa using hlength
      subst hsame
      exact absurd h (List.lt_irrefl _)
    | cons d ds' =>
      exact List.cons_lt_cons_iff.mpr (.inl (hmark.trans_le (hds' d List.mem_cons_self)))
  | cons d ds ih =>
    cases ds' with
    | nil =>
      -- digits are nowhere below zeros, so the first text does not go on behind the second one
      have hzeros : zeros' = (d :: ds ++ List.replicate zeros '0').length := by
        rw [List.length_append, List.length_replicate, hlength, List.length_nil, Nat.zero_add]
      refine absurd h ?_
      rw [List.nil_append]
      refine not_lt_replicate_zero (fun c hc => ?_) hzeros.symm
      rcases List.mem_append.mp hc with hc | hc
      · exact hds c hc
      · rw [List.eq_of_mem_replicate hc]
    | cons d' ds' =>
      have hrest : ds.length + zeros = ds'.length + zeros' := by
        simp only [List.length_cons] at hlength
        omega
      rcases List.cons_lt_cons_iff.mp h with hlt | ⟨hsame, hlt⟩
      · exact List.cons_lt_cons_iff.mpr (.inl hlt)
      · exact List.cons_lt_cons_iff.mpr (.inr ⟨hsame, ih (fun c hc => hds c (.tail d hc))
          (fun c hc => hds' c (.tail d' hc)) hrest hlt⟩)

end Order

end HomeAgents.Text
