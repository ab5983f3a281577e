import HomeAgents.Json.Read
import Mathlib.Algebra.Order.Ring.Int
import Mathlib.Data.List.TakeWhile

/-!
# Strings and whole numbers are read back

A printed string is read back as it was, whatever stands behind it. A printed whole number of 64
bits is read back where a bracket or a comma stands behind it, or nothing.
-/

namespace HomeAgents

/-- A number that is whole and fits into 64 bits, with or without a sign. -/
def Number.Whole : Number → Prop
  | .int n => -2 ^ 63 ≤ n ∧ n < 2 ^ 64
  | .real _ => False

namespace Json

section Strings

variable {c : Char} {done cs rest : List Char}

theorem hexValue?_hexDigit : ∀ n < 16, hexValue? (hexDigit n) = some n := by
  decide

/-- The four digits of an escaped control character give the character back. -/
theorem readStringFrom_hexEscape (h : c.toNat < 0x20) :
    readStringFrom (.hex none 0 0) done
        ('0' :: '0' :: hexDigit (c.toNat / 16) :: hexDigit (c.toNat % 16) :: cs) =
      readStringFrom .plain (c :: done) cs := by
  have hzero : hexValue? '0' = some 0 := rfl
  have hhigh : hexValue? (hexDigit (c.toNat / 16)) = some (c.toNat / 16) :=
    hexValue?_hexDigit _ (by omega)
  have hlow : hexValue? (hexDigit (c.toNat % 16)) = some (c.toNat % 16) :=
    hexValue?_hexDigit _ (by omega)
  have hvalue : ((0 * 16 + 0) * 16 + 0) * 16 + c.toNat / 16 = c.toNat / 16 := by omega
  have hchar : c.toNat / 16 * 16 + c.toNat % 16 = c.toNat := by omega
  have htrail : isTrail c.toNat = false := by
    simp only [isTrail, Bool.and_eq_false_iff, decide_eq_false_iff_not]
    omega
  have hlead : isLead c.toNat = false := by
    simp only [isLead, Bool.and_eq_false_iff, decide_eq_false_iff_not]
    omega
  simp [readStringFrom, hzero, hhigh, hlow, hchar, htrail, hlead]

/-- The reader of a string takes an escaped character for the character. -/
theorem readStringFrom_escapeChar :
    readStringFrom .plain done (escapeChar c ++ cs) = readStringFrom .plain (c :: done) cs := by
  unfold escapeChar
  split
  case h_8 hquote hbackslash _ _ _ _ _ =>
    split
    next hcontrol =>
      simpa [readStringFrom] using readStringFrom_hexEscape hcontrol
    next hcontrol =>
      rw [List.singleton_append, readStringFrom, if_neg hquote, if_neg hbackslash, if_neg hcontrol]
  all_goals rfl

theorem readStringFrom_flatMap (done cs rest : List Char) :
    readStringFrom .plain done (cs.flatMap escapeChar ++ '"' :: rest) =
      .ok (String.ofList (done.reverse ++ cs), rest) := by
  induction cs generalizing done with
  | nil => simp [readStringFrom]
  | cons c cs ih =>
    rw [List.flatMap_cons, List.append_assoc, readStringFrom_escapeChar, ih]
    simp

/-- A printed string is read back, behind its opening quote. -/
theorem readString_stringChars (s : String) (rest : List Char) :
    readString (s.toList.flatMap escapeChar ++ '"' :: rest) = .ok (s, rest) := by
  rw [readString, readStringFrom_flatMap, List.reverse_nil, List.nil_append, String.ofList_toList]

theorem stringChars_append (s : String) (rest : List Char) :
    stringChars s ++ rest = '"' :: (s.toList.flatMap escapeChar ++ '"' :: rest) := by
  simp [stringChars]

end Strings

section Numbers

/-- What may stand behind a value in a text: the end, or what separates values. -/
def Ends (rest : List Char) : Prop :=
  ∀ c ∈ rest.head?, c = ',' ∨ c = ']' ∨ c = '\x7d'

theorem Ends.nil : Ends [] := nofun

variable {n : Nat} {c : Char} {rest : List Char}

theorem isDigit_eq (c : Char) : isDigit c = c.isDigit := rfl

theorem isDigit_of_mem (h : c ∈ Nat.toDigits 10 n) : isDigit c = true :=
  (isDigit_eq c).trans (Nat.isDigit_of_mem_toDigits (by decide) (by decide) h)

/-- Digits are taken in one by one while their number stays within the greatest significand. -/
theorem absorb_eq (digits : List Char) (s : Nat)
    (h : Nat.ofDigitChars 10 digits s ≤ maxSignificand) :
    absorb s digits = (Nat.ofDigitChars 10 digits s, []) := by
  induction digits generalizing s with
  | nil => rfl
  | cons d ds ih =>
    have hstep :
        Nat.ofDigitChars 10 (d :: ds) s = Nat.ofDigitChars 10 ds (s * 10 + digitValue d) := by
      rw [Nat.ofDigitChars_cons, Nat.mul_comm]
      rfl
    rw [hstep] at h ⊢
    have hle : s * 10 + digitValue d ≤ maxSignificand := by
      rw [Nat.ofDigitChars_eq_ofDigitChars_zero] at h
      have hpow : 1 ≤ 10 ^ ds.length := Nat.one_le_pow _ _ (by decide)
      have := Nat.le_mul_of_pos_left (s * 10 + digitValue d) hpow
      omega
    rw [absorb, if_pos hle]
    exact ih _ h

/-- Only the number zero is printed with a leading zero. -/
theorem toDigits_head (n : Nat) : ∃ c cs, Nat.toDigits 10 n = c :: cs ∧ (c = '0' → n = 0) := by
  induction n using Nat.strongRecOn with
  | _ n ih =>
    by_cases hn : n < 10
    · have hzero : ∀ n < 10, Nat.digitChar n = '0' → n = 0 := by decide
      exact ⟨_, [], Nat.toDigits_of_lt_base hn, hzero n hn⟩
    · obtain ⟨c, cs, hdigits, hzero⟩ := ih (n / 10) (by omega)
      refine ⟨c, cs ++ [(n % 10).digitChar], ?_, fun hc => ?_⟩
      · rw [Nat.toDigits_of_base_le (by decide) (by omega), hdigits]
        rfl
      · have := hzero hc
        omega

theorem Ends.not_digit (h : Ends rest) : ∀ c ∈ rest.head?, isDigit c = false := by
  intro c hc
  rcases h c hc with rfl | rfl | rfl <;> rfl

theorem takeWhile_digits (h : Ends rest) :
    (Nat.toDigits 10 n ++ rest).takeWhile isDigit = Nat.toDigits 10 n := by
  rw [List.takeWhile_append_of_pos fun c hc => isDigit_of_mem hc]
  cases rest with
  | nil => simp
  | cons c cs => simp [h.not_digit c rfl]

theorem dropWhile_digits (h : Ends rest) :
    (Nat.toDigits 10 n ++ rest).dropWhile isDigit = rest := by
  rw [List.dropWhile_append_of_pos fun c hc => isDigit_of_mem hc]
  cases rest with
  | nil => rfl
  | cons c cs => simp [h.not_digit c rfl]

/-- Printed digits are read back as their number. -/
theorem readUnsigned_toDigits (negative : Bool) (hn : n ≤ maxSignificand) (h : Ends rest) :
    readUnsigned negative (Nat.toDigits 10 n ++ rest) = .ok (wholeNumber negative n, rest) := by
  obtain ⟨c, cs, hdigits, hzero⟩ := toDigits_head n
  have hdigit : isDigit c = true := isDigit_of_mem (n := n) (hdigits ▸ List.mem_cons_self)
  have hlead : (c = '0' && ((cs ++ rest).head?.map isDigit).getD false) = false := by
    rw [Bool.and_eq_false_iff, decide_eq_false_iff_not]
    by_cases hc : c = '0'
    · refine .inr ?_
      have hcs : cs = [] := by
        rw [hzero hc, Nat.toDigits_zero] at hdigits
        exact (List.cons.inj hdigits).2.symm
      rw [hcs, List.nil_append]
      cases rest with
      | nil => rfl
      | cons c' _ => exact h.not_digit c' rfl
    · exact .inl hc
  have habsorb : absorb 0 (Nat.toDigits 10 n) = (n, []) := by
    rw [absorb_eq _ _ (Nat.ofDigitChars_ten_toDigits.le.trans hn), Nat.ofDigitChars_ten_toDigits]
  have htake := takeWhile_digits (n := n) h
  have hdrop := dropWhile_digits (n := n) h
  rw [hdigits, List.cons_append] at htake hdrop ⊢
  simp only [readUnsigned]
  rw [htake, hdrop, hlead, hdigit, ← hdigits, habsorb]
  cases rest with
  | nil => rfl
  | cons c' cs' => rcases h c' rfl with rfl | rfl | rfl <;> rfl

theorem toString_ofNat_toList (n : Nat) : (toString (Int.ofNat n)).toList = Nat.toDigits 10 n := by
  change n.repr.toList = Nat.toDigits 10 n
  rw [Nat.repr_eq_ofList_toDigits, String.toList_ofList]

theorem toString_negSucc_toList (n : Nat) :
    (toString (Int.negSucc n)).toList = '-' :: Nat.toDigits 10 (n + 1) := by
  change ("-" ++ (n + 1).repr).toList = '-' :: Nat.toDigits 10 (n + 1)
  simp [Nat.repr_eq_ofList_toDigits]

theorem maxSignificand_eq : maxSignificand = 2 ^ 64 - 1 := rfl

theorem readNumber_of_unsigned {cs : List Char} (h : ∀ c ∈ cs.head?, c ≠ '-') :
    readNumber cs = readUnsigned false cs := by
  unfold readNumber
  split
  · exact absurd rfl (h '-' rfl)
  · rfl

theorem startsNumber_of_digit (h : isDigit c = true) : startsNumber c = true := by
  rw [startsNumber, h, Bool.or_true]

/-- The text of a whole number has digits and a sign only. -/
theorem startsNumber_of_mem {number : Number} (h : number.Whole) :
    ∀ c ∈ (numberText number).toList, startsNumber c = true := by
  cases number with
  | real x => exact absurd h id
  | int n =>
    cases n with
    | ofNat n =>
      rw [numberText, toString_ofNat_toList]
      exact fun c hc => startsNumber_of_digit (isDigit_of_mem hc)
    | negSucc n =>
      rw [numberText, toString_negSucc_toList]
      exact List.forall_mem_cons.mpr ⟨rfl, fun c hc => startsNumber_of_digit (isDigit_of_mem hc)⟩

theorem numberText_ne_nil {number : Number} (h : number.Whole) :
    (numberText number).toList ≠ [] := by
  cases number with
  | real x => exact absurd h id
  | int n =>
    cases n with
    | ofNat n =>
      rw [numberText, toString_ofNat_toList]
      exact Nat.toDigits_ne_nil
    | negSucc n =>
      rw [numberText, toString_negSucc_toList]
      exact List.cons_ne_nil _ _

theorem numberText_starts {number : Number} (h : number.Whole) :
    ∃ c cs, (numberText number).toList = c :: cs ∧ startsNumber c = true := by
  obtain ⟨c, cs, htext⟩ := List.exists_cons_of_ne_nil (numberText_ne_nil h)
  exact ⟨c, cs, htext, startsNumber_of_mem h c (htext ▸ List.mem_cons_self)⟩

/-- A whole number of 64 bits is read back. -/
theorem readNumber_numberText {number : Number} (hnumber : number.Whole) (h : Ends rest) :
    readNumber ((numberText number).toList ++ rest) = .ok (number, rest) := by
  cases number with
  | real x => exact absurd hnumber id
  | int n =>
    obtain ⟨hlow, hhigh⟩ := hnumber
    cases n with
    | ofNat n =>
      have hn : n ≤ maxSignificand := by
        rw [Int.ofNat_eq_natCast] at hhigh
        rw [maxSignificand_eq]
        omega
      rw [numberText, toString_ofNat_toList, readNumber_of_unsigned, readUnsigned_toDigits _ hn h]
      · rfl
      · obtain ⟨c, cs, hdigits, -⟩ := toDigits_head n
        have hdigit : isDigit c = true := isDigit_of_mem (n := n) (hdigits ▸ List.mem_cons_self)
        rw [hdigits]
        rintro _ ⟨⟩ rfl
        cases hdigit
    | negSucc n =>
      rw [Int.negSucc_eq] at hlow
      have hn : n + 1 ≤ maxSignificand := by
        rw [maxSignificand_eq]
        omega
      have hfit : (n + 1 = 0 || Nat.pow 2 63 < n + 1) = false := by
        have : Nat.pow 2 63 = 2 ^ 63 := rfl
        simp only [Bool.or_eq_false_iff, decide_eq_false_iff_not]
        omega
      rw [numberText, toString_negSucc_toList, List.cons_append, readNumber,
        readUnsigned_toDigits _ hn h, wholeNumber, hfit]
      rfl

end Numbers

end Json

end HomeAgents
