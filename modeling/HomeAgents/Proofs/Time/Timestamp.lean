import HomeAgents.Proofs.Text.Digits
import HomeAgents.Proofs.Time.Calendar
import Mathlib.Data.String.Basic

/-!
# Timestamps

In the years that have four digits a timestamp is a row of numbers of fixed widths, and what may
follow them, a fraction of three, six or nine digits or none, ends with a sign that is below the
point and below all digits. So timestamps are in order as the moments are, however many digits their
fractions have, and a timestamp is read back as its moment. In all other years it begins with a sign
and is not read.
-/

namespace HomeAgents.Time

open Text

/-- A moment in the years 0 to 9999. -/
def FourDigitYear (moment : Int) : Prop :=
  0 ≤ (Civil.ofNanos moment).year ∧ (Civil.ofNanos moment).year ≤ 9999

instance (moment : Int) : Decidable (FourDigitYear moment) :=
  inferInstanceAs (Decidable (_ ∧ _))

variable {moment moment' : Int} {n width nano nano' : Nat} {cs cs' : List Char}

section Layout

/-- Numbers of fixed widths, and what stands behind each. -/
def laidOut : List (Nat × List Char) → List Nat → List Char
  | (width, marks) :: layout, n :: ns => digitsOf width n ++ (marks ++ laidOut layout ns)
  | _, _ => []

/-- Numbers of fixed widths are in order as their texts are. -/
theorem laidOut_append_lt {layout : List (Nat × List Char)} {ns ns' : List Nat} (h : ns < ns')
    (hlength : ns.length = layout.length)
    (hfits : List.Forall₂ (fun field n => n < 10 ^ field.1) layout ns') (cs cs' : List Char) :
    laidOut layout ns ++ cs < laidOut layout ns' ++ cs' := by
  induction hfits generalizing ns with
  | nil =>
    rw [List.length_nil, List.length_eq_zero_iff] at hlength
    subst hlength
    cases h
  | @cons field n' layout ns' hfits _ ih =>
    obtain ⟨n, ns, rfl⟩ := List.exists_cons_of_length_eq_add_one hlength
    simp only [laidOut, List.append_assoc]
    rcases List.cons_lt_cons_iff.mp h with hlt | ⟨rfl, hlt⟩
    · exact digitsOf_append_lt hlt hfits _ _
    · exact List.append_left_lt (List.append_left_lt (ih hlt (Nat.succ.inj hlength)))

/-- The date and the time of day down to the second. -/
def dateLayout : List (Nat × List Char) :=
  [(4, ['-']), (2, ['-']), (2, ['T']), (2, [':']), (2, [':']), (2, [])]

theorem toList_padded (h : n < 10 ^ width) (hwidth : 0 < width) :
    (padded width n).toList = digitsOf width n := by
  rw [padded, String.toList_append, toList_pushn, Nat.toString_eq_repr, ← String.length_toList,
    Nat.toList_repr, replicate_append_toDigits h hwidth]

theorem fields_fit (h : FourDigitYear moment) :
    List.Forall₂ (fun field n => n < 10 ^ field.1) dateLayout (Civil.ofNanos moment).fields := by
  obtain ⟨hmonth, hday⟩ := dateOf_bounds (Int.fdiv moment nanosPerDay)
  have hyear : (dateOf (Int.fdiv moment nanosPerDay)).1 ≤ 9999 := h.2
  have hsecond := Civil.secondOfDay_lt moment
  rw [Civil.fields_ofNanos]
  simp only [dateLayout, List.cons_append, List.nil_append, List.forall₂_cons,
    List.Forall₂.nil, and_true]
  omega

theorem toList_timestamp (h : FourDigitYear moment) :
    (timestamp moment).toList = laidOut dateLayout (Civil.ofNanos moment).fields ++
      (fractionText (Civil.ofNanos moment).nano).toList ++ "+00:00".toList := by
  have hfits := fields_fit h
  simp only [dateLayout, Civil.fields, List.forall₂_cons] at hfits
  obtain ⟨hyear, hmonth, hday, hhour, hminute, hsecond, -⟩ := hfits
  rw [timestamp, Civil.dateText, Civil.clockText, yearText, if_pos ⟨h.1, h.2⟩]
  simp only [String.toList_append, toList_padded hyear (by decide),
    toList_padded hmonth (by decide), toList_padded hday (by decide),
    toList_padded hhour (by decide), toList_padded hminute (by decide),
    toList_padded hsecond (by decide), dateLayout, Civil.fields, laidOut]
  simp

end Layout

section Fraction

/-- A fraction is written with the point and all its digits but zeros at the end. -/
theorem exists_fraction (h : nano < 10 ^ 9) (hsome : nano ≠ 0) :
    ∃ zeros ≤ 6, 10 ^ zeros ∣ nano ∧
      (fractionText nano).toList = '.' :: digitsOf (9 - zeros) (nano / 10 ^ zeros) := by
  have hwritten (width n : Nat) (hn : n < 10 ^ width) (hwidth : 0 < width) :
      ("." ++ padded width n).toList = '.' :: digitsOf width n := by
    rw [String.toList_append, toList_padded hn hwidth]
    rfl
  rw [fractionText, if_neg hsome]
  split
  next hmillis =>
    exact ⟨6, le_rfl, Nat.dvd_of_mod_eq_zero hmillis, hwritten 3 _ (by omega) (by decide)⟩
  next =>
    split
    next hmicros =>
      exact ⟨3, by decide, Nat.dvd_of_mod_eq_zero hmicros, hwritten 6 _ (by omega) (by decide)⟩
    next =>
      refine ⟨0, by decide, Nat.one_dvd nano, ?_⟩
      rw [hwritten 9 nano h (by decide), Nat.pow_zero, Nat.div_one]

theorem digitsOf_eq_append_zeros {zeros : Nat} (hzeros : zeros ≤ 6) (hdvd : 10 ^ zeros ∣ nano) :
    digitsOf 9 nano =
      digitsOf (9 - zeros) (nano / 10 ^ zeros) ++ List.replicate zeros '0' := by
  have hwidth : 9 = 9 - zeros + zeros := by omega
  rw [← digitsOf_of_dvd hdvd, ← digitsOf_add, ← hwidth]

theorem zero_le_of_mem_digitsOf {c : Char} (h : c ∈ digitsOf width n) : '0' ≤ c := by
  have hdigit := isDigit_of_mem_digitsOf h
  simp only [Char.isDigit, Bool.and_eq_true, decide_eq_true_eq] at hdigit
  exact hdigit.1

/-- Fractions are in order as the numbers are, if a sign stands behind them. -/
theorem fractionText_append_lt (h : nano < nano') (hnano' : nano' < 10 ^ 9) (cs cs' : List Char) :
    (fractionText nano).toList ++ '+' :: cs < (fractionText nano').toList ++ '+' :: cs' := by
  have hsome' : nano' ≠ 0 := by omega
  obtain ⟨zeros', hzeros', hdvd', htext'⟩ := exists_fraction hnano' hsome'
  rcases Nat.eq_zero_or_pos nano with rfl | hpos
  · -- no fraction is written for zero, and the sign is below the point
    rw [htext']
    exact List.cons_lt_cons_iff.mpr (.inl (by decide))
  · have hnano : nano < 10 ^ 9 := h.trans hnano'
    have hsome : nano ≠ 0 := by omega
    obtain ⟨zeros, hzeros, hdvd, htext⟩ := exists_fraction hnano hsome
    have hdigits : digitsOf 9 nano ++ [] < digitsOf 9 nano' ++ [] :=
      digitsOf_append_lt h hnano' [] []
    rw [List.append_nil, List.append_nil, digitsOf_eq_append_zeros hzeros hdvd,
      digitsOf_eq_append_zeros hzeros' hdvd'] at hdigits
    have hlength : (digitsOf (9 - zeros) (nano / 10 ^ zeros)).length + zeros =
        (digitsOf (9 - zeros') (nano' / 10 ^ zeros')).length + zeros' := by
      rw [length_digitsOf, length_digitsOf]
      omega
    rw [htext, htext']
    exact List.cons_lt_cons_iff.mpr (.inr ⟨rfl, trimmed_lt (by decide)
      (fun _ => zero_le_of_mem_digitsOf) (fun _ => zero_le_of_mem_digitsOf) hlength hdigits _ _⟩)

end Fraction

section Order

theorem timestamp_lt (h : moment < moment') (hmoment : FourDigitYear moment)
    (hmoment' : FourDigitYear moment') : timestamp moment < timestamp moment' := by
  rw [String.lt_iff_toList_lt, toList_timestamp hmoment, toList_timestamp hmoment',
    List.append_assoc, List.append_assoc]
  rcases Civil.fields_lt h hmoment.1 with hfields | ⟨hfields, hnano⟩
  · exact laidOut_append_lt hfields rfl (fields_fit hmoment') _ _
  · rw [hfields]
    exact List.append_left_lt
      (fractionText_append_lt hnano (Civil.nano_ofNanos_lt moment') _ _)

/-- Timestamps of the years 0 to 9999 are in order as texts exactly as the moments are. -/
theorem timestamp_lt_iff (hmoment : FourDigitYear moment) (hmoment' : FourDigitYear moment') :
    timestamp moment < timestamp moment' ↔ moment < moment' := by
  refine ⟨fun h => ?_, fun h => timestamp_lt h hmoment hmoment'⟩
  by_contra hnot
  rcases (not_lt.mp hnot).lt_or_eq with hlt | rfl
  · exact lt_asymm h (timestamp_lt hlt hmoment' hmoment)
  · exact lt_irrefl _ h

end Order

section Read

theorem digitsValue_append_singleton (ds : List Char) (d : Char) :
    digitsValue (ds ++ [d]) = 10 * digitsValue ds + (d.toNat - '0'.toNat) := by
  simp [digitsValue]

theorem digitsValue_digitsOf (h : n < 10 ^ width) : digitsValue (digitsOf width n) = n := by
  induction width generalizing n with
  | zero =>
    rw [Nat.pow_zero] at h
    rw [digitsOf, Nat.lt_one_iff.mp h]
    rfl
  | succ width ih =>
    have hlast : (n % 10).digitChar.toNat - '0'.toNat = n % 10 :=
      Nat.toNat_digitChar_sub_48_of_lt_ten (Nat.mod_lt n (by decide))
    rw [digitsOf, digitsValue_append_singleton, ih (div_ten_lt h), hlast]
    exact Nat.div_add_mod n 10

theorem readNumber_digitsOf (h : n < 10 ^ width) (cs : List Char) :
    readNumber width (digitsOf width n ++ cs) = .ok (n, cs) := by
  have hall : (digitsOf width n).all Char.isDigit = true :=
    List.all_eq_true.mpr fun _ => isDigit_of_mem_digitsOf
  rw [readNumber, List.take_left' (length_digitsOf width n),
    List.drop_left' (length_digitsOf width n), length_digitsOf]
  simp only [lt_irrefl, if_false, hall, if_true, digitsValue_digitsOf h]

/-- A fraction is read back in nanoseconds. -/
theorem readFraction_fractionText (h : nano < 10 ^ 9) (cs : List Char) :
    readFraction ((fractionText nano).toList ++ '+' :: cs) = .ok (nano, '+' :: cs) := by
  rcases Nat.eq_zero_or_pos nano with rfl | hpos
  · rfl
  · obtain ⟨zeros, hzeros, hdvd, htext⟩ := exists_fraction h (Nat.ne_of_gt hpos)
    have hfits : nano / 10 ^ zeros < 10 ^ (9 - zeros) := by
      rw [Nat.div_lt_iff_lt_mul (Nat.pow_pos (by decide)), ← Nat.pow_add,
        Nat.sub_add_cancel (by omega)]
      exact h
    have hvalue := digitsValue_digitsOf hfits
    have hlength := length_digitsOf (9 - zeros) (nano / 10 ^ zeros)
    have hdigits : ∀ d ∈ digitsOf (9 - zeros) (nano / 10 ^ zeros), d.isDigit = true :=
      fun _ => isDigit_of_mem_digitsOf
    rw [htext]
    generalize digitsOf (9 - zeros) (nano / 10 ^ zeros) = ds at hvalue hlength hdigits ⊢
    have htaken : (ds ++ '+' :: cs).takeWhile Char.isDigit = ds := by
      rw [List.takeWhile_append_of_pos hdigits, List.takeWhile_cons_of_neg (by decide),
        List.append_nil]
    have hleft : (ds ++ '+' :: cs).dropWhile Char.isDigit = '+' :: cs := by
      rw [List.dropWhile_append_of_pos hdigits, List.dropWhile_cons_of_neg (by decide)]
    have hsome : ds.isEmpty = false := by
      rw [List.isEmpty_eq_false_iff, ← List.length_pos_iff, hlength]
      omega
    have hscale : 9 - (9 - zeros) = zeros := by omega
    rw [List.cons_append, readFraction]
    simp only [htaken, hleft, List.take_of_length_le (hlength.trans_le (Nat.sub_le 9 zeros)), hsome,
      Bool.false_eq_true, if_false, hlength, hscale, hvalue, Nat.pow_eq, Nat.div_mul_cancel hdvd]

theorem readMark_of_mem {c : Char} {marks : List Char} (h : c ∈ marks) (cs : List Char) :
    readMark marks (c :: cs) = .ok cs :=
  if_pos h

/-- A timestamp of the years 0 to 9999 is read back as its moment. -/
theorem ofTimestamp_timestamp (h : FourDigitYear moment) :
    ofTimestamp (timestamp moment) = .ok moment := by
  have hfits := fields_fit h
  simp only [dateLayout, Civil.fields, List.forall₂_cons] at hfits
  obtain ⟨hyear, hmonth, hday, hhour, hminute, hsecond, -⟩ := hfits
  have hyear' : ((Civil.ofNanos moment).year.toNat : Int) = (Civil.ofNanos moment).year :=
    Int.toNat_of_nonneg h.1
  have hfraction := readFraction_fractionText (Civil.nano_ofNanos_lt moment) "00:00".toList
  have hoffset : readOffset ('+' :: "00:00".toList) = .ok (0, []) := rfl
  have hsign : "+00:00".toList = '+' :: "00:00".toList := rfl
  rw [ofTimestamp, toList_timestamp h]
  simp only [dateLayout, Civil.fields, laidOut, List.append_assoc, List.cons_append,
    List.nil_append, bind, Except.bind, readNumber_digitsOf hyear, readNumber_digitsOf hmonth,
    readNumber_digitsOf hday, readNumber_digitsOf hhour, readNumber_digitsOf hminute,
    readNumber_digitsOf hsecond, readMark_of_mem (List.mem_cons_self), hsign, hfraction, hoffset,
    hyear', List.isEmpty_nil]
  rw [if_neg (by decide), if_pos (Civil.isValid_ofNanos moment), Civil.toNanos_ofNanos]
  simp

theorem readNumber_of_not_isDigit {c : Char} (hc : c.isDigit = false) (hwidth : 0 < width)
    (hlength : width ≤ (c :: cs).length) : readNumber width (c :: cs) = .error .invalid := by
  obtain ⟨width, rfl⟩ := Nat.exists_eq_succ_of_ne_zero (Nat.ne_of_gt hwidth)
  have hall : ((c :: cs).take (width + 1)).all Char.isDigit = false := by
    rw [List.take_succ_cons, List.all_cons, hc, Bool.false_and]
  rw [readNumber]
  simp only [List.length_take_of_le hlength, lt_irrefl, if_false, hall, Bool.false_eq_true]

theorem four_lt_length_timestamp (moment : Int) : 4 < (timestamp moment).toList.length := by
  rw [timestamp, String.toList_append, List.length_append]
  exact Nat.lt_add_left _ (by decide)

theorem exists_sign (h : ¬ FourDigitYear moment) :
    ∃ sign rest, (timestamp moment).toList = sign :: rest ∧ sign.isDigit = false := by
  have hsign : yearText (Civil.ofNanos moment).year =
      (if (Civil.ofNanos moment).year < 0 then "-" else "+") ++
        padded 4 (Civil.ofNanos moment).year.natAbs := if_neg h
  rw [timestamp, Civil.dateText, hsign]
  simp only [String.toList_append, List.append_assoc]
  split
  · exact ⟨'-', _, rfl, rfl⟩
  · exact ⟨'+', _, rfl, rfl⟩

/-- A timestamp of another year begins with a sign and is not read. -/
theorem ofTimestamp_timestamp_of_not (h : ¬ FourDigitYear moment) :
    ofTimestamp (timestamp moment) = .error .invalid := by
  obtain ⟨sign, rest, htext, hsign⟩ := exists_sign h
  have hwidth := four_lt_length_timestamp moment
  rw [htext] at hwidth
  rw [ofTimestamp, htext, readNumber_of_not_isDigit hsign (by decide) hwidth.le]
  rfl

end Read

end HomeAgents.Time
