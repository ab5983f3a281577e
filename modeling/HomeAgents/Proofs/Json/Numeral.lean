import HomeAgents.Json.Skip
import HomeAgents.Json.Read
import Mathlib.Data.List.TakeWhile

/-!
# How numbers are written

A number is a sign, whole digits without a leading zero, decimals and an exponent, of which only the
whole digits must be there. What is read or passed over as a number is written so. A number that is
written so is passed over, and it is read unless it is too large for a double.
-/

namespace HomeAgents.Json

open Binary

/-- One digit or more. -/
def Digits (ds : List Char) : Prop :=
  ds ≠ [] ∧ ∀ d ∈ ds, isDigit d = true

/-- Whole digits without a leading zero. -/
def Whole (ds : List Char) : Prop :=
  Digits ds ∧ ∀ tail, ds = '0' :: tail → tail = []

/-- The exponent of a number in a text. -/
structure Exponent where
  letter : Char
  sign : List Char
  digits : List Char
  letter_eq : letter = 'e' ∨ letter = 'E'
  sign_eq : sign = [] ∨ sign = ['+'] ∨ sign = ['-']
  digits_spec : Digits digits

namespace Exponent

def chars (e : Exponent) : List Char :=
  e.letter :: (e.sign ++ e.digits)

def up (e : Exponent) : Bool :=
  e.sign ≠ ['-']

end Exponent

/-- The text of an exponent that may be left out. -/
def scaleChars : Option Exponent → List Char
  | none => []
  | some e => e.chars

/-- The number that a significand with a decimal and a written exponent stands for, if there is a
double for it. -/
def scaled? (negative : Bool) (significand : Nat) (exp : Int) : Option Exponent → Option Number
  | none => (assemble? negative significand exp).map .real
  | some e =>
    match exponentValue 0 e.digits with
    | .inl n => (assemble? negative significand (if e.up then exp + n else exp - n)).map .real
    | .inr _ =>
      if significand ≠ 0 && e.up then none else some (.real (.finite negative 0 double.minExp))

/-- A number in a text. Without decimals there is no point. -/
structure Numeral where
  negative : Bool
  whole : List Char
  decimals : List Char
  exponent : Option Exponent
  whole_spec : Whole whole
  decimals_digits : ∀ d ∈ decimals, isDigit d = true

namespace Numeral

def sign (n : Numeral) : List Char :=
  if n.negative then ['-'] else []

def pointChars (n : Numeral) : List Char :=
  if n.decimals.isEmpty then [] else '.' :: n.decimals

def body (n : Numeral) : List Char :=
  n.whole ++ (n.pointChars ++ scaleChars n.exponent)

def chars (n : Numeral) : List Char :=
  n.sign ++ n.body

/-- The number that a text stands for, if it is whole or there is a double for it. -/
def value? (n : Numeral) : Option Number :=
  let whole := absorb 0 n.whole
  if n.decimals.isEmpty && n.exponent.isNone && whole.2.isEmpty then
    some (wholeNumber n.negative whole.1)
  else
    let all := absorb whole.1 n.decimals
    scaled? n.negative all.1 (whole.2.length - (n.decimals.length - all.2.length : Nat)) n.exponent

end Numeral

section Digits

variable {ds cs rest : List Char}

/-- Digits end where something else begins. -/
def Undigited (rest : List Char) : Prop :=
  ∀ c ∈ rest.head?, isDigit c = false

theorem takeWhile_digits_append (h : ∀ d ∈ ds, isDigit d = true) (hrest : Undigited rest) :
    (ds ++ rest).takeWhile isDigit = ds := by
  rw [List.takeWhile_append_of_pos h]
  cases rest with
  | nil => simp
  | cons c cs => simp [hrest c rfl]

theorem dropWhile_digits_append (h : ∀ d ∈ ds, isDigit d = true) (hrest : Undigited rest) :
    (ds ++ rest).dropWhile isDigit = rest := by
  rw [List.dropWhile_append_of_pos h]
  cases rest with
  | nil => rfl
  | cons c cs => simp [hrest c rfl]

theorem mem_takeWhile_digits : ∀ d ∈ cs.takeWhile isDigit, isDigit d = true :=
  fun _ hd => List.mem_takeWhile_imp hd

theorem undigited_dropWhile (cs : List Char) : Undigited (cs.dropWhile isDigit) := by
  intro c hc
  have hnot := List.head?_dropWhile_not isDigit cs
  rw [hc] at hnot
  simpa using hnot

/-- Digits that begin a text are one or more. -/
theorem digits_takeWhile {c : Char} (h : isDigit c = true) :
    Digits ((c :: cs).takeWhile isDigit) := by
  refine ⟨?_, mem_takeWhile_digits⟩
  rw [List.takeWhile_cons_of_pos h]
  exact List.cons_ne_nil _ _

theorem Digits.exists_cons (h : Digits ds) : ∃ d tail, ds = d :: tail ∧ isDigit d = true := by
  obtain ⟨d, tail, rfl⟩ := List.exists_cons_of_ne_nil h.1
  exact ⟨d, tail, rfl, h.2 d List.mem_cons_self⟩

end Digits

/-- An exponent that may be left out ends where neither a digit nor, without one, its letter goes
on. -/
def ScaleEnds (e : Option Exponent) (rest : List Char) : Prop :=
  Undigited rest ∧ (e = none → ∀ c ∈ rest.head?, c ≠ 'e' ∧ c ≠ 'E')

/-- A number ends where none of its parts goes on. -/
def Numeral.Ends (n : Numeral) (rest : List Char) : Prop :=
  ScaleEnds n.exponent rest ∧
    (n.exponent = none → n.decimals = [] → ∀ c ∈ rest.head?, c ≠ '.')

/-- What may stand behind a number in a text: the end, a blank, or what separates values. -/
def Stops (rest : List Char) : Prop :=
  ∀ c ∈ rest.head?, isGap c = true ∨ c = ',' ∨ c = ']' ∨ c = '\x7d'

theorem stops_cons {c : Char} {cs : List Char}
    (h : isGap c = true ∨ c = ',' ∨ c = ']' ∨ c = '\x7d') : Stops (c :: cs) := by
  rintro _ ⟨⟩
  exact h

theorem Stops.ends {rest : List Char} (h : Stops rest) (n : Numeral) : n.Ends rest := by
  have hhead : ∀ c ∈ rest.head?, isDigit c = false ∧ c ≠ '.' ∧ c ≠ 'e' ∧ c ≠ 'E' := by
    intro c hc
    have hcases := h c hc
    simp only [isGap, Bool.or_eq_true, decide_eq_true_eq] at hcases
    rcases hcases with (((rfl | rfl) | rfl) | rfl) | rfl | rfl | rfl <;> decide
  exact ⟨⟨fun c hc => (hhead c hc).1, fun _ c hc => (hhead c hc).2.2⟩,
    fun _ _ c hc => (hhead c hc).2.1⟩

section Reading

variable {negative : Bool} {significand : Nat} {exp : Int} {cs rest : List Char} {v : Number}

theorem assemble_eq_ok {rest' : List Char} :
    assemble negative significand exp rest = .ok (v, rest') ↔
      scaled? negative significand exp none = some v ∧ rest = rest' := by
  unfold assemble scaled?
  split
  case h_1 x h => simp [h]
  case h_2 h => simp [h, faultBefore]

/-- What is done behind the sign of an exponent. -/
theorem readExponent_digits {up : Bool} {sign : List Char} {ds : List Char} (hds : Digits ds)
    (hrest : Undigited rest)
    (hsign : sign = [] ∧ up = true ∨ sign = ['+'] ∧ up = true ∨ sign = ['-'] ∧ up = false) :
    readExponent negative significand exp (sign ++ (ds ++ rest)) =
      match exponentValue 0 ds with
      | .inl n => assemble negative significand (if up then exp + n else exp - n) rest
      | .inr unread =>
        if significand ≠ 0 && up then faultBefore .numberOutOfRange (unread ++ rest)
        else .ok (.real (.finite negative 0 double.minExp), rest) := by
  have htake := takeWhile_digits_append hds.2 hrest
  have hdrop := dropWhile_digits_append hds.2 hrest
  obtain ⟨d, tail, rfl, hd⟩ := hds.exists_cons
  rw [List.cons_append] at htake hdrop ⊢
  rcases hsign with ⟨rfl, rfl⟩ | ⟨rfl, rfl⟩ | ⟨rfl, rfl⟩
  · have hplus : d ≠ '+' := by rintro rfl; cases hd
    have hminus : d ≠ '-' := by rintro rfl; cases hd
    cases hvalue : exponentValue 0 (d :: tail) <;>
      simp [readExponent, hplus, hminus, hd, htake, hdrop, hvalue]
  · cases hvalue : exponentValue 0 (d :: tail) <;> simp [readExponent, hd, htake, hdrop, hvalue]
  · cases hvalue : exponentValue 0 (d :: tail) <;> simp [readExponent, hd, htake, hdrop, hvalue]

theorem readExponent_eq_ok (e : Exponent) (hrest : Undigited rest) {rest' : List Char} :
    readExponent negative significand exp (e.sign ++ (e.digits ++ rest)) = .ok (v, rest') ↔
      scaled? negative significand exp (some e) = some v ∧ rest = rest' := by
  have hsign : e.sign = [] ∧ e.up = true ∨ e.sign = ['+'] ∧ e.up = true ∨
      e.sign = ['-'] ∧ e.up = false := by
    rcases e.sign_eq with h | h | h <;> simp [Exponent.up, h]
  rw [readExponent_digits e.digits_spec hrest hsign]
  simp only [scaled?]
  cases exponentValue 0 e.digits with
  | inl n => exact assemble_eq_ok
  | inr unread =>
    dsimp only
    split
    next => simp [faultBefore]
    next => simp

/-- A sign or none and a digit behind an exponent's letter make an exponent of the digits there. -/
theorem exists_exponent {c d : Char} {sign tail : List Char} (hc : c = 'e' ∨ c = 'E')
    (hsign : sign = [] ∨ sign = ['+'] ∨ sign = ['-']) (hd : isDigit d = true) :
    ∃ (e : Exponent) (more : List Char), e.letter = c ∧
      sign ++ d :: tail = e.sign ++ (e.digits ++ more) ∧ Undigited more := by
  refine ⟨⟨c, sign, (d :: tail).takeWhile isDigit, hc, hsign, digits_takeWhile hd⟩,
    (d :: tail).dropWhile isDigit, rfl, ?_, undigited_dropWhile _⟩
  rw [List.takeWhile_append_dropWhile]

theorem exponent_of_readExponent {c : Char} {r : Number × List Char} (hc : c = 'e' ∨ c = 'E')
    (h : readExponent negative significand exp cs = .ok r) :
    ∃ (e : Exponent) (more : List Char), e.letter = c ∧ cs = e.sign ++ (e.digits ++ more) ∧
      Undigited more := by
  unfold readExponent at h
  split at h
  rename_i up digits hsplit
  have hdigit : ∃ d tail, digits = d :: tail ∧ isDigit d = true := by
    cases digits with
    | nil => cases h
    | cons d tail =>
      refine ⟨d, tail, rfl, ?_⟩
      by_contra hd
      rw [Bool.not_eq_true] at hd
      simp [hd, faultAt] at h
  obtain ⟨d, tail, rfl, hd⟩ := hdigit
  split at hsplit <;> cases hsplit
  · exact exists_exponent hc (.inr (.inl rfl)) hd
  · exact exists_exponent hc (.inr (.inr rfl)) hd
  · exact exists_exponent hc (.inl rfl) hd

/-- What may follow the digits of a number is an exponent or nothing. -/
theorem exists_scale (hcs : Undigited cs)
    (hexponent : ∀ c tail, cs = c :: tail → c = 'e' ∨ c = 'E' →
      ∃ (e : Exponent) (more : List Char), e.letter = c ∧ tail = e.sign ++ (e.digits ++ more) ∧
        Undigited more) :
    ∃ e more, cs = scaleChars e ++ more ∧ ScaleEnds e more := by
  by_cases hletter : ∃ c ∈ cs.head?, c = 'e' ∨ c = 'E'
  · obtain ⟨c, hhead, hc⟩ := hletter
    obtain ⟨tail, rfl⟩ := List.head?_eq_some_iff.mp hhead
    obtain ⟨e, more, rfl, rfl, hmore⟩ := hexponent c tail rfl hc
    refine ⟨some e, more, ?_, hmore, nofun⟩
    simp [scaleChars, Exponent.chars]
  · refine ⟨none, cs, rfl, hcs, fun _ c hc => ?_⟩
    exact ⟨fun h => hletter ⟨c, hc, .inl h⟩, fun h => hletter ⟨c, hc, .inr h⟩⟩

theorem ScaleEnds.undigited_append {e : Option Exponent} (h : ScaleEnds e rest) :
    Undigited (scaleChars e ++ rest) := by
  cases e with
  | none => exact h.1
  | some e =>
    rintro _ ⟨⟩
    rcases e.letter_eq with h | h <;> rw [h] <;> decide

theorem readScale_eq_ok (e : Option Exponent) (hrest : ScaleEnds e rest) {rest' : List Char} :
    readScale negative significand exp (scaleChars e ++ rest) = .ok (v, rest') ↔
      scaled? negative significand exp e = some v ∧ rest = rest' := by
  obtain ⟨hdigit, hletter⟩ := hrest
  cases e with
  | none =>
    have hplain : readScale negative significand exp rest =
        assemble negative significand exp rest := by
      unfold readScale
      split
      next => exact absurd rfl (hletter rfl _ rfl).1
      next => exact absurd rfl (hletter rfl _ rfl).2
      next => rfl
    rw [scaleChars, List.nil_append, hplain]
    exact assemble_eq_ok
  | some e =>
    have hexponent : readScale negative significand exp (scaleChars (some e) ++ rest) =
        readExponent negative significand exp (e.sign ++ (e.digits ++ rest)) := by
      rcases e.letter_eq with h | h <;> simp [scaleChars, Exponent.chars, h, readScale]
    rw [hexponent]
    exact readExponent_eq_ok e hdigit

theorem scale_of_readScale {r : Number × List Char} (hcs : Undigited cs)
    (h : readScale negative significand exp cs = .ok r) :
    ∃ e more, cs = scaleChars e ++ more ∧ ScaleEnds e more := by
  refine exists_scale hcs fun c tail hcons hc => ?_
  subst hcons
  have hread : readExponent negative significand exp tail = .ok r := by
    rcases hc with rfl | rfl <;> exact h
  exact exponent_of_readExponent hc hread

theorem readDecimals_digits {ds : List Char} (hds : Digits ds) (hrest : Undigited rest) :
    readDecimals negative significand exp (ds ++ rest) =
      readScale negative (absorb significand ds).1
        (exp - (ds.length - (absorb significand ds).2.length : Nat)) rest := by
  simp only [readDecimals, takeWhile_digits_append hds.2 hrest,
    dropWhile_digits_append hds.2 hrest]
  simp [hds.1]

theorem decimals_of_readDecimals {r : Number × List Char}
    (h : readDecimals negative significand exp cs = .ok r) :
    ∃ ds more, cs = ds ++ more ∧ Digits ds ∧ Undigited more := by
  simp only [readDecimals] at h
  split at h
  case isTrue => split at h <;> cases h
  case isFalse hdigits =>
    refine ⟨cs.takeWhile isDigit, cs.dropWhile isDigit, List.takeWhile_append_dropWhile.symm,
      ⟨by simpa using hdigits, mem_takeWhile_digits⟩, undigited_dropWhile cs⟩

theorem leading_zero_eq_false {d : Char} {tail : List Char} (h : Whole (d :: tail))
    (hrest : Undigited rest) :
    (decide (d = '0') && ((tail ++ rest).head?.map isDigit).getD false) = false := by
  by_cases hd : d = '0'
  · obtain rfl := h.2 tail (by rw [hd])
    cases rest with
    | nil => simp
    | cons c cs => simp [hrest c rfl]
  · simp [hd]

theorem exists_whole {d : Char} {tail : List Char} (hd : isDigit d = true)
    (hlead : (decide (d = '0') && (tail.head?.map isDigit).getD false) = false) :
    ∃ ds more, d :: tail = ds ++ more ∧ Whole ds ∧ Undigited more := by
  refine ⟨(d :: tail).takeWhile isDigit, (d :: tail).dropWhile isDigit,
    List.takeWhile_append_dropWhile.symm, ⟨digits_takeWhile hd, ?_⟩, undigited_dropWhile _⟩
  intro ds hzero
  rw [List.takeWhile_cons_of_pos hd] at hzero
  obtain ⟨rfl, rfl⟩ := List.cons.inj hzero
  cases tail with
  | nil => rfl
  | cons c cs =>
    have hc : isDigit c = false := by simpa using hlead
    rw [List.takeWhile_cons_of_neg (by simp [hc])]

/-- How the reader of a number goes on behind its whole digits. -/
def behindWhole (negative : Bool) (ds : List Char) (cs : List Char) :
    Except Fault (Number × List Char) :=
  match cs with
  | '.' :: tail => readDecimals negative (absorb 0 ds).1 (absorb 0 ds).2.length tail
  | 'e' :: _ => readScale negative (absorb 0 ds).1 (absorb 0 ds).2.length cs
  | 'E' :: _ => readScale negative (absorb 0 ds).1 (absorb 0 ds).2.length cs
  | _ =>
    if (absorb 0 ds).2.isEmpty then .ok (wholeNumber negative (absorb 0 ds).1, cs)
    else assemble negative (absorb 0 ds).1 (absorb 0 ds).2.length cs

theorem readUnsigned_whole {ds : List Char} (hds : Whole ds) (hrest : Undigited rest) :
    readUnsigned negative (ds ++ rest) = behindWhole negative ds rest := by
  have htake := takeWhile_digits_append hds.1.2 hrest
  have hdrop := dropWhile_digits_append hds.1.2 hrest
  obtain ⟨d, tail, rfl, hd⟩ := hds.1.exists_cons
  have hlead := leading_zero_eq_false hds hrest
  rw [List.cons_append] at htake hdrop ⊢
  simp only [readUnsigned, hd, hlead, htake, hdrop, Bool.not_true, Bool.false_eq_true, if_false]
  rfl

theorem whole_of_readUnsigned {r : Number × List Char}
    (h : readUnsigned negative cs = .ok r) :
    ∃ ds more, cs = ds ++ more ∧ Whole ds ∧ Undigited more := by
  unfold readUnsigned at h
  split at h
  case h_1 => cases h
  case h_2 d tail =>
    split at h
    case isTrue => cases h
    case isFalse hd =>
      split at h
      case isTrue => cases h
      case isFalse hlead => exact exists_whole (by simpa using hd) (by simpa using hlead)

theorem behindWhole_plain {ds : List Char}
    (hrest : ∀ c ∈ rest.head?, c ≠ '.' ∧ c ≠ 'e' ∧ c ≠ 'E') :
    behindWhole negative ds rest =
      if (absorb 0 ds).2.isEmpty then .ok (wholeNumber negative (absorb 0 ds).1, rest)
      else assemble negative (absorb 0 ds).1 (absorb 0 ds).2.length rest := by
  unfold behindWhole
  split
  next => exact absurd rfl (hrest _ rfl).1
  next => exact absurd rfl (hrest _ rfl).2.1
  next => exact absurd rfl (hrest _ rfl).2.2
  next => rfl

theorem behindWhole_scale {ds : List Char} (e : Exponent) :
    behindWhole negative ds (e.chars ++ rest) =
      readScale negative (absorb 0 ds).1 (absorb 0 ds).2.length (e.chars ++ rest) := by
  rcases e.letter_eq with h | h <;> simp [Exponent.chars, h, behindWhole]

/-- A number is read exactly if it stands for one. -/
theorem behindWhole_eq_ok (n : Numeral) (hrest : n.Ends rest) {rest' : List Char} :
    behindWhole n.negative n.whole (n.pointChars ++ (scaleChars n.exponent ++ rest)) =
        .ok (v, rest') ↔ n.value? = some v ∧ rest = rest' := by
  obtain ⟨hscale, hpoint⟩ := hrest
  have hread {significand : Nat} {exp : Int} :
      readScale n.negative significand exp (scaleChars n.exponent ++ rest) = .ok (v, rest') ↔
        scaled? n.negative significand exp n.exponent = some v ∧ rest = rest' :=
    readScale_eq_ok n.exponent hscale
  cases hdecimals : n.decimals with
  | cons d ds =>
    have hds : Digits (d :: ds) := ⟨List.cons_ne_nil _ _, hdecimals ▸ n.decimals_digits⟩
    rw [Numeral.pointChars, hdecimals]
    change readDecimals n.negative _ _ (d :: ds ++ (scaleChars n.exponent ++ rest)) = _ ↔ _
    rw [readDecimals_digits hds hscale.undigited_append, hread, Numeral.value?, hdecimals]
    simp
  | nil =>
    rw [Numeral.pointChars, Numeral.value?, hdecimals]
    cases hexponent : n.exponent with
    | none =>
      have hplain : ∀ c ∈ rest.head?, c ≠ '.' ∧ c ≠ 'e' ∧ c ≠ 'E' := fun c hc =>
        ⟨hpoint hexponent hdecimals c hc, hscale.2 hexponent c hc⟩
      change behindWhole _ _ rest = _ ↔ _
      rw [behindWhole_plain hplain]
      cases hunread : (absorb 0 n.whole).2 with
      | nil => simp
      | cons c cs => simp [assemble_eq_ok, absorb]
    | some e =>
      rw [hexponent] at hread
      change behindWhole _ _ (e.chars ++ rest) = _ ↔ _
      rw [behindWhole_scale]
      refine hread.trans ?_
      simp [absorb]

theorem readUnsigned_eq_ok (n : Numeral) (hrest : n.Ends rest) {rest' : List Char} :
    readUnsigned n.negative (n.body ++ rest) = .ok (v, rest') ↔
      n.value? = some v ∧ rest = rest' := by
  have hbehind : Undigited (n.pointChars ++ (scaleChars n.exponent ++ rest)) := by
    rw [Numeral.pointChars]
    split
    · exact hrest.1.undigited_append
    · rintro _ ⟨⟩
      rfl
  rw [Numeral.body, List.append_assoc, List.append_assoc, readUnsigned_whole n.whole_spec hbehind,
    behindWhole_eq_ok n hrest]

/-- The whole digits and what stands behind them make a number. -/
theorem exists_numeral {ds decimals more : List Char} {e : Option Exponent} (negative : Bool)
    (hds : Whole ds) (hdecimals : ∀ d ∈ decimals, isDigit d = true) (hscale : ScaleEnds e more)
    (hpoint : e = none → decimals = [] → ∀ c ∈ more.head?, c ≠ '.') :
    ∃ n : Numeral, n.negative = negative ∧ n.Ends more ∧
      ds ++ ((if decimals.isEmpty then [] else '.' :: decimals) ++ (scaleChars e ++ more)) =
        n.body ++ more := by
  refine ⟨⟨negative, ds, decimals, e, hds, hdecimals⟩, rfl, ⟨hscale, hpoint⟩, ?_⟩
  simp [Numeral.body, Numeral.pointChars]

theorem numeral_of_readUnsigned {r : Number × List Char} (h : readUnsigned negative cs = .ok r) :
    ∃ (n : Numeral) (more : List Char), n.negative = negative ∧ n.Ends more ∧
      cs = n.body ++ more := by
  obtain ⟨ds, behind, rfl, hds, hbehind⟩ := whole_of_readUnsigned h
  rw [readUnsigned_whole hds hbehind] at h
  by_cases hpoint : ∃ tail, behind = '.' :: tail
  · obtain ⟨tail, rfl⟩ := hpoint
    obtain ⟨decimals, scale, rfl, hdecimals, hscale⟩ := decimals_of_readDecimals h
    change readDecimals _ _ _ _ = _ at h
    rw [readDecimals_digits hdecimals hscale] at h
    obtain ⟨e, more, rfl, hends⟩ := scale_of_readScale hscale h
    obtain ⟨n, hn, hmore, hbody⟩ := exists_numeral negative hds hdecimals.2 hends
      fun _ hnil => absurd hnil hdecimals.1
    refine ⟨n, more, hn, hmore, ?_⟩
    rw [← hbody]
    simp [hdecimals.1]
  · obtain ⟨e, more, rfl, hends⟩ := exists_scale hbehind fun c tail hcons hc => by
      subst hcons
      have hread : readExponent negative (absorb 0 ds).1 (absorb 0 ds).2.length tail = .ok r := by
        rcases hc with rfl | rfl <;> exact h
      exact exponent_of_readExponent hc hread
    have hmore : e = none → [] = ([] : List Char) → ∀ c ∈ more.head?, c ≠ '.' := by
      rintro rfl - c hc rfl
      obtain ⟨tail, rfl⟩ := List.head?_eq_some_iff.mp hc
      exact hpoint ⟨tail, rfl⟩
    have hnone : ∀ d ∈ ([] : List Char), isDigit d = true := nofun
    obtain ⟨n, hn, hmore, hbody⟩ := exists_numeral negative hds hnone hends hmore
    exact ⟨n, more, hn, hmore, hbody⟩

/-- A number is read exactly if its text stands for what it is read as. -/
theorem readNumber_chars (n : Numeral) (hrest : n.Ends rest) {rest' : List Char} :
    readNumber (n.chars ++ rest) = .ok (v, rest') ↔ n.value? = some v ∧ rest = rest' := by
  have hread : readUnsigned n.negative (n.body ++ rest) = .ok (v, rest') ↔
      n.value? = some v ∧ rest = rest' := readUnsigned_eq_ok n hrest
  rw [Numeral.chars, Numeral.sign]
  cases hn : n.negative with
  | true =>
    rw [hn] at hread
    exact hread
  | false =>
    rw [hn] at hread
    obtain ⟨d, tail, hdigits, hd⟩ := n.whole_spec.1.exists_cons
    have hplain : readNumber (n.body ++ rest) = readUnsigned false (n.body ++ rest) := by
      rw [Numeral.body, hdigits]
      unfold readNumber
      split
      next heq =>
        obtain ⟨rfl, -⟩ := List.cons.inj heq
        cases hd
      next => rfl
    exact hplain ▸ hread

theorem numeral_of_readNumber (h : readNumber cs = .ok (v, rest)) :
    ∃ n : Numeral, cs = n.chars ++ rest ∧ n.value? = some v := by
  have hnumeral : ∃ (n : Numeral) (more : List Char), n.Ends more ∧ cs = n.chars ++ more := by
    unfold readNumber at h
    split at h
    next tail =>
      obtain ⟨n, more, hn, hmore, rfl⟩ := numeral_of_readUnsigned h
      exact ⟨n, more, hmore, by simp [Numeral.chars, Numeral.sign, hn]⟩
    next =>
      obtain ⟨n, more, hn, hmore, rfl⟩ := numeral_of_readUnsigned h
      exact ⟨n, more, hmore, by simp [Numeral.chars, Numeral.sign, hn]⟩
  obtain ⟨n, more, hmore, rfl⟩ := hnumeral
  obtain ⟨hvalue, rfl⟩ := (readNumber_chars n hmore).mp h
  exact ⟨n, rfl, hvalue⟩

end Reading

section Passing

variable {cs rest : List Char}

theorem skipScale_chars (e : Option Exponent) (hrest : ScaleEnds e rest) :
    skipScale (scaleChars e ++ rest) = .ok rest := by
  obtain ⟨hdigit, hletter⟩ := hrest
  cases e with
  | none =>
    rw [scaleChars, List.nil_append]
    unfold skipScale
    split
    next => exact absurd rfl (hletter rfl _ rfl).1
    next => exact absurd rfl (hletter rfl _ rfl).2
    next => rfl
  | some e =>
    have hexponent : skipScale (scaleChars (some e) ++ rest) =
        skipExponent (e.sign ++ (e.digits ++ rest)) := by
      rcases e.letter_eq with h | h <;> simp [scaleChars, Exponent.chars, h, skipScale]
    have hdrop := dropWhile_digits_append e.digits_spec.2 hdigit
    obtain ⟨d, tail, hdigits, hd⟩ := e.digits_spec.exists_cons
    rw [hexponent]
    rw [hdigits] at hdrop ⊢
    rcases e.sign_eq with h | h | h
    · have hplus : d ≠ '+' := by rintro rfl; cases hd
      have hminus : d ≠ '-' := by rintro rfl; cases hd
      rw [h]
      unfold skipExponent
      simpa [hplus, hminus, hd] using hdrop
    · rw [h]
      simpa [skipExponent, hd] using hdrop
    · rw [h]
      simpa [skipExponent, hd] using hdrop

theorem exponent_of_skipExponent {c : Char} {ds : List Char} (hc : c = 'e' ∨ c = 'E')
    (h : skipExponent cs = .ok ds) :
    ∃ (e : Exponent) (more : List Char), e.letter = c ∧ cs = e.sign ++ (e.digits ++ more) ∧
      Undigited more := by
  have hdigit {ds' : List Char} (h : (if (ds'.head?.map isDigit).getD false then
      .ok (ds'.dropWhile isDigit) else faultAt .invalidNumber ds' : Except Fault (List Char)) =
        .ok ds) : ∃ d tail, ds' = d :: tail ∧ isDigit d = true := by
    cases ds' with
    | nil => cases h
    | cons d tail =>
      refine ⟨d, tail, rfl, ?_⟩
      by_contra hd
      rw [Bool.not_eq_true] at hd
      simp [hd, faultAt] at h
  unfold skipExponent at h
  dsimp only at h
  split at h
  · obtain ⟨d, tail, rfl, hd⟩ := hdigit h
    exact exists_exponent hc (.inr (.inl rfl)) hd
  · obtain ⟨d, tail, rfl, hd⟩ := hdigit h
    exact exists_exponent hc (.inr (.inr rfl)) hd
  · obtain ⟨d, tail, rfl, hd⟩ := hdigit h
    exact exists_exponent hc (.inl rfl) hd

theorem scale_of_skipScale {ds : List Char} (hcs : Undigited cs) (h : skipScale cs = .ok ds) :
    ∃ e more, cs = scaleChars e ++ more ∧ ScaleEnds e more := by
  refine exists_scale hcs fun c tail hcons hc => ?_
  subst hcons
  have hskip : skipExponent tail = .ok ds := by
    rcases hc with rfl | rfl <;> exact h
  exact exponent_of_skipExponent hc hskip

/-- How a number is passed over behind its whole digits. -/
def passWhole (cs : List Char) : Except Fault (List Char) :=
  match cs with
  | '.' :: tail =>
    if (tail.head?.map isDigit).getD false then skipScale (tail.dropWhile isDigit)
    else faultAt .invalidNumber tail
  | cs => skipScale cs

theorem skipUnsigned_whole {ds : List Char} (hds : Whole ds) (hrest : Undigited rest) :
    skipUnsigned (ds ++ rest) = passWhole rest := by
  have hdrop := dropWhile_digits_append hds.1.2 hrest
  obtain ⟨d, tail, rfl, hd⟩ := hds.1.exists_cons
  have hlead := leading_zero_eq_false hds hrest
  rw [List.cons_append] at hdrop ⊢
  simp only [skipUnsigned, hd, hlead, hdrop, Bool.not_true, Bool.false_eq_true, if_false]
  rfl

theorem passWhole_point {tail : List Char} :
    passWhole ('.' :: tail) =
      if (tail.head?.map isDigit).getD false then skipScale (tail.dropWhile isDigit)
      else faultAt .invalidNumber tail := rfl

theorem passWhole_plain (hcs : ∀ c ∈ cs.head?, c ≠ '.') : passWhole cs = skipScale cs := by
  unfold passWhole
  split
  next => exact absurd rfl (hcs _ rfl)
  next => rfl

theorem skipUnsigned_body (n : Numeral) (hrest : n.Ends rest) :
    skipUnsigned (n.body ++ rest) = .ok rest := by
  obtain ⟨hscale, hpoint⟩ := hrest
  have hskip := skipScale_chars n.exponent hscale
  rw [Numeral.body, List.append_assoc, List.append_assoc, Numeral.pointChars]
  cases hdecimals : n.decimals with
  | nil =>
    have hplain : ∀ c ∈ (scaleChars n.exponent ++ rest).head?, c ≠ '.' := by
      cases hexponent : n.exponent with
      | none => exact hpoint hexponent hdecimals
      | some e =>
        rintro _ ⟨⟩
        rcases e.letter_eq with h | h <;> rw [h] <;> decide
    rw [← hskip, ← passWhole_plain hplain]
    exact skipUnsigned_whole n.whole_spec hscale.undigited_append
  | cons d ds =>
    have hds : ∀ c ∈ d :: ds, isDigit c = true := hdecimals ▸ n.decimals_digits
    have hdrop := dropWhile_digits_append hds hscale.undigited_append
    have hbehind : Undigited ('.' :: (d :: ds ++ (scaleChars n.exponent ++ rest))) := by
      rintro _ ⟨⟩
      rfl
    refine (skipUnsigned_whole n.whole_spec hbehind).trans ?_
    rw [passWhole_point, hdrop, hskip, List.cons_append, List.head?_cons, Option.map_some,
      hds d List.mem_cons_self]
    rfl

theorem whole_of_skipUnsigned {ds : List Char} (h : skipUnsigned cs = .ok ds) :
    ∃ whole more, cs = whole ++ more ∧ Whole whole ∧ Undigited more := by
  unfold skipUnsigned at h
  split at h
  case h_1 => cases h
  case h_2 d tail =>
    split at h
    case isTrue => cases h
    case isFalse hd =>
      split at h
      case isTrue => cases h
      case isFalse hlead => exact exists_whole (by simpa using hd) (by simpa using hlead)

theorem exists_numeral_of_skip {ds : List Char} (negative : Bool) (h : skipUnsigned cs = .ok ds) :
    ∃ (n : Numeral) (more : List Char), n.negative = negative ∧ n.Ends more ∧
      cs = n.body ++ more := by
  obtain ⟨whole, behind, rfl, hwhole, hbehind⟩ := whole_of_skipUnsigned h
  rw [skipUnsigned_whole hwhole hbehind] at h
  by_cases hpoint : ∃ tail, behind = '.' :: tail
  · obtain ⟨tail, rfl⟩ := hpoint
    rw [passWhole_point] at h
    split at h
    case isFalse => cases h
    case isTrue hdigit =>
      obtain ⟨e, more, hdrop, hends⟩ := scale_of_skipScale (undigited_dropWhile tail) h
      have hdecimals : tail.takeWhile isDigit ≠ [] := by
        cases tail with
        | nil => cases hdigit
        | cons d tail =>
          rw [List.takeWhile_cons_of_pos (by simpa using hdigit)]
          exact List.cons_ne_nil _ _
      obtain ⟨n, hn, hmore, hbody⟩ := exists_numeral negative hwhole mem_takeWhile_digits hends
        fun _ hnil => absurd hnil hdecimals
      refine ⟨n, more, hn, hmore, ?_⟩
      rw [← hbody, ← hdrop, if_neg (by simpa using hdecimals), List.cons_append,
        List.takeWhile_append_dropWhile]
  · have hplain : ∀ c ∈ behind.head?, c ≠ '.' := by
      rintro c hc rfl
      obtain ⟨tail, rfl⟩ := List.head?_eq_some_iff.mp hc
      exact hpoint ⟨tail, rfl⟩
    rw [passWhole_plain hplain] at h
    obtain ⟨e, more, rfl, hends⟩ := scale_of_skipScale hbehind h
    have hnone : ∀ d ∈ ([] : List Char), isDigit d = true := nofun
    have hmore : e = none → [] = ([] : List Char) → ∀ c ∈ more.head?, c ≠ '.' := by
      rintro rfl -
      exact hplain
    obtain ⟨n, hn, hmore, hbody⟩ := exists_numeral negative hwhole hnone hends hmore
    exact ⟨n, more, hn, hmore, hbody⟩

theorem numeral_of_skipUnsigned {ds : List Char} (negative : Bool)
    (h : skipUnsigned cs = .ok ds) :
    ∃ n : Numeral, n.negative = negative ∧ cs = n.body ++ ds := by
  obtain ⟨n, more, hn, hmore, rfl⟩ := exists_numeral_of_skip negative h
  rw [skipUnsigned_body n hmore] at h
  cases h
  exact ⟨n, hn, rfl⟩

end Passing

end HomeAgents.Json
