import HomeAgents.Proofs.Json.Quotes

/-!
# How strings are written

Between its quotes a string is a row of pieces, one for each of its characters: the character
itself, an escape, the four digits of a code unit, or a surrogate pair. What is read as a string is
written so, and what is written so is read. A string that is passed over may have its surrogates
unpaired.
-/

namespace HomeAgents.Json

/-- The code unit of four hexadecimal digits. -/
def unit? : List Char → Option Nat
  | [a, b, c, d] => do
    let a ← hexValue? a
    let b ← hexValue? b
    let c ← hexValue? c
    let d ← hexValue? d
    pure (((a * 16 + b) * 16 + c) * 16 + d)
  | _ => none

/-- A piece of a string and the character it stands for. -/
inductive Piece : List Char → Char → Prop
  | plain {c : Char} (hquote : c ≠ '"') (hbackslash : c ≠ '\\') (hcontrol : 0x20 ≤ c.toNat) :
      Piece [c] c
  | short {c d : Char} (h : shortEscape? c = some d) : Piece ['\\', c] d
  | unit {digits : List Char} {n : Nat} (h : unit? digits = some n) (hlead : isLead n = false)
      (htrail : isTrail n = false) : Piece ('\\' :: 'u' :: digits) (Char.ofNat n)
  | pair {digits digits' : List Char} {n n' : Nat} (h : unit? digits = some n)
      (hlead : isLead n = true) (h' : unit? digits' = some n') (htrail : isTrail n' = true) :
      Piece ('\\' :: 'u' :: (digits ++ '\\' :: 'u' :: digits')) (pairChar n n')

/-- The characters of a string, as they are written between its quotes. -/
inductive Spelled : List Char → List Char → Prop
  | nil : Spelled [] []
  | cons {piece word chars : List Char} {c : Char} (first : Piece piece c)
      (rest : Spelled word chars) : Spelled (piece ++ word) (c :: chars)

/-- A piece of a string that is passed over: the units of a pair are looked at one by one. -/
inductive LoosePiece : List Char → Prop
  | plain {c : Char} (hquote : c ≠ '"') (hbackslash : c ≠ '\\') (hcontrol : 0x20 ≤ c.toNat) :
      LoosePiece [c]
  | short {c : Char} (h : (shortEscape? c).isSome = true) : LoosePiece ['\\', c]
  | unit {digits : List Char} (h : (unit? digits).isSome = true) :
      LoosePiece ('\\' :: 'u' :: digits)

/-- A string between its quotes that is passed over. -/
inductive Loose : List Char → Prop
  | nil : Loose []
  | cons {piece word : List Char} (first : LoosePiece piece) (rest : Loose word) :
      Loose (piece ++ word)

/-! ## Code units -/

section Units

variable {lead : Option Nat} {count value n : Nat} {done cs digits : List Char}
  {r : String × List Char}

theorem unit?_eq_some :
    unit? digits = some n ↔ ∃ a b c d x y z w, digits = [a, b, c, d] ∧ hexValue? a = some x ∧
      hexValue? b = some y ∧ hexValue? c = some z ∧ hexValue? d = some w ∧
      n = ((x * 16 + y) * 16 + z) * 16 + w := by
  unfold unit?
  split
  case h_1 a b c d =>
    simp only [Option.bind_eq_bind, Option.bind_eq_some_iff, Option.pure_def, Option.some.injEq]
    constructor
    · rintro ⟨x, hx, y, hy, z, hz, w, hw, rfl⟩
      exact ⟨a, b, c, d, x, y, z, w, rfl, hx, hy, hz, hw, rfl⟩
    · rintro ⟨_, _, _, _, x, y, z, w, hdigits, hx, hy, hz, hw, rfl⟩
      cases hdigits
      exact ⟨x, hx, y, hy, z, hz, w, hw, rfl⟩
  case h_2 hnone =>
    simp only [reduceCtorEq, false_iff]
    rintro ⟨a, b, c, d, _, _, _, _, rfl, _⟩
    exact hnone a b c d rfl

/-- How the reader of a string goes on behind a code unit. -/
def behindUnit (lead : Option Nat) (n : Nat) (done cs : List Char) :
    Except Fault (String × List Char) :=
  match lead with
  | none =>
    if isTrail n then faultBefore .loneSurrogate cs
    else if isLead n then readStringFrom (.afterLead n) done cs
    else readStringFrom .plain (Char.ofNat n :: done) cs
  | some l =>
    if isTrail n then readStringFrom .plain (pairChar l n :: done) cs
    else faultBefore .loneSurrogate cs

theorem readStringFrom_digit {c : Char} {d : Nat} (h : hexValue? c = some d) :
    readStringFrom (.hex lead count value) done (c :: cs) =
      if count < 3 then readStringFrom (.hex lead (count + 1) (value * 16 + d)) done cs
      else behindUnit lead (value * 16 + d) done cs := by
  rw [readStringFrom, h]
  rfl

theorem digit_of_readStringFrom (h : readStringFrom (.hex lead count value) done cs = .ok r) :
    ∃ c d tail, cs = c :: tail ∧ hexValue? c = some d := by
  cases cs with
  | nil => cases h
  | cons c tail =>
    cases hd : hexValue? c with
    | some d => exact ⟨c, d, tail, rfl, hd⟩
    | none =>
      rw [readStringFrom, hd] at h
      exact absurd h hexFault_ne_ok

/-- Four digits are read as their code unit. -/
theorem readStringFrom_unit (h : unit? digits = some n) :
    readStringFrom (.hex lead 0 0) done (digits ++ cs) = behindUnit lead n done cs := by
  obtain ⟨a, b, c, d, x, y, z, w, rfl, hx, hy, hz, hw, rfl⟩ := unit?_eq_some.mp h
  simp [readStringFrom_digit hx, readStringFrom_digit hy, readStringFrom_digit hz,
    readStringFrom_digit hw]

theorem unit_of_readStringFrom (h : readStringFrom (.hex lead 0 0) done cs = .ok r) :
    ∃ digits n tail, cs = digits ++ tail ∧ unit? digits = some n ∧
      behindUnit lead n done tail = .ok r := by
  obtain ⟨a, x, cs₁, rfl, hx⟩ := digit_of_readStringFrom h
  have h₁ := h
  rw [readStringFrom_digit hx, if_pos (by decide)] at h₁
  obtain ⟨b, y, cs₂, rfl, hy⟩ := digit_of_readStringFrom h₁
  rw [readStringFrom_digit hy, if_pos (by decide)] at h₁
  obtain ⟨c, z, cs₃, rfl, hz⟩ := digit_of_readStringFrom h₁
  rw [readStringFrom_digit hz, if_pos (by decide)] at h₁
  obtain ⟨d, w, tail, rfl, hw⟩ := digit_of_readStringFrom h₁
  have hunit : unit? [a, b, c, d] = some (((x * 16 + y) * 16 + z) * 16 + w) :=
    unit?_eq_some.mpr ⟨a, b, c, d, x, y, z, w, rfl, hx, hy, hz, hw, rfl⟩
  refine ⟨[a, b, c, d], _, tail, rfl, hunit, ?_⟩
  rw [← readStringFrom_unit hunit]
  exact h

theorem skipStringFrom_digit {c : Char} {d : Nat} (h : hexValue? c = some d) :
    skipStringFrom (.hex count) (c :: cs) =
      skipStringFrom (if count < 3 then .hex (count + 1) else .plain) cs := by
  rw [skipStringFrom, h]

theorem digit_of_skipStringFrom {rest : List Char}
    (h : skipStringFrom (.hex count) cs = .ok rest) :
    ∃ c d tail, cs = c :: tail ∧ hexValue? c = some d := by
  cases cs with
  | nil => cases h
  | cons c tail =>
    cases hd : hexValue? c with
    | some d => exact ⟨c, d, tail, rfl, hd⟩
    | none =>
      rw [skipStringFrom, hd] at h
      exact absurd h hexFault_ne_ok

theorem skipStringFrom_unit (h : (unit? digits).isSome = true) :
    skipStringFrom (.hex 0) (digits ++ cs) = skipStringFrom .plain cs := by
  obtain ⟨n, h⟩ := Option.isSome_iff_exists.mp h
  obtain ⟨a, b, c, d, x, y, z, w, rfl, hx, hy, hz, hw, -⟩ := unit?_eq_some.mp h
  simp [skipStringFrom_digit hx, skipStringFrom_digit hy, skipStringFrom_digit hz,
    skipStringFrom_digit hw]

theorem unit_of_skipStringFrom {rest : List Char} (h : skipStringFrom (.hex 0) cs = .ok rest) :
    ∃ digits tail, cs = digits ++ tail ∧ (unit? digits).isSome = true ∧
      skipStringFrom .plain tail = .ok rest := by
  obtain ⟨a, x, cs₁, rfl, hx⟩ := digit_of_skipStringFrom h
  have h₁ := h
  rw [skipStringFrom_digit hx, if_pos (by decide)] at h₁
  obtain ⟨b, y, cs₂, rfl, hy⟩ := digit_of_skipStringFrom h₁
  rw [skipStringFrom_digit hy, if_pos (by decide)] at h₁
  obtain ⟨c, z, cs₃, rfl, hz⟩ := digit_of_skipStringFrom h₁
  rw [skipStringFrom_digit hz, if_pos (by decide)] at h₁
  obtain ⟨d, w, tail, rfl, hw⟩ := digit_of_skipStringFrom h₁
  have hunit : (unit? [a, b, c, d]).isSome = true :=
    Option.isSome_iff_exists.mpr
      ⟨_, unit?_eq_some.mpr ⟨a, b, c, d, x, y, z, w, rfl, hx, hy, hz, hw, rfl⟩⟩
  refine ⟨[a, b, c, d], tail, rfl, hunit, ?_⟩
  rw [← skipStringFrom_unit hunit]
  exact h

end Units

/-! ## Strings that are read -/

section Reading

variable {piece word chars done cs rest : List Char} {c : Char} {s : String}

theorem Piece.ne_nil (h : Piece piece c) : piece ≠ [] := by
  cases h <;> exact List.cons_ne_nil _ _

/-- A piece is read as its character. -/
theorem readStringFrom_piece (h : Piece piece c) :
    readStringFrom .plain done (piece ++ cs) = readStringFrom .plain (c :: done) cs := by
  cases h with
  | plain hquote hbackslash hcontrol =>
    rw [List.singleton_append, readStringFrom, if_neg hquote, if_neg hbackslash,
      if_neg (Nat.not_lt.mpr hcontrol)]
  | @short e d h =>
    have hu : e ≠ 'u' := by
      rintro rfl
      cases h
    simp [readStringFrom, hu, h]
  | unit h hlead htrail =>
    simp [readStringFrom, readStringFrom_unit h, behindUnit, hlead, htrail]
  | @pair digits digits' n n' h hlead h' htrail =>
    have hnot : isTrail n = false := by
      simp only [isLead, isTrail, Bool.and_eq_true, decide_eq_true_eq, Bool.and_eq_false_iff,
        decide_eq_false_iff_not] at hlead ⊢
      omega
    simp [readStringFrom, readStringFrom_unit h, readStringFrom_unit h', behindUnit, hlead, htrail,
      hnot]

theorem pair_of_afterLead {n : Nat} {r : String × List Char}
    (h : readStringFrom (.afterLead n) done cs = .ok r) :
    ∃ digits n' tail, cs = '\\' :: 'u' :: (digits ++ tail) ∧ unit? digits = some n' ∧
      isTrail n' = true := by
  cases cs with
  | nil => cases h
  | cons b cs =>
    by_cases hbackslash : b = '\\'
    · subst hbackslash
      cases cs with
      | nil => cases h
      | cons u cs =>
        by_cases hu : u = 'u'
        · subst hu
          have hhex : readStringFrom (.hex (some n) 0 0) done cs = .ok r := by
            simpa [readStringFrom] using h
          obtain ⟨digits, n', tail, rfl, hunit, hbehind⟩ := unit_of_readStringFrom hhex
          refine ⟨digits, n', tail, rfl, hunit, ?_⟩
          cases htrail : isTrail n' with
          | true => rfl
          | false => simp [behindUnit, htrail, faultBefore] at hbehind
        · simp [readStringFrom, hu, faultAt] at h
    · simp [readStringFrom, hbackslash, faultAt] at h

theorem piece_of_escape {r : String × List Char} (h : readStringFrom .escape done cs = .ok r) :
    ∃ piece c tail, Piece piece c ∧ '\\' :: cs = piece ++ tail := by
  cases cs with
  | nil => cases h
  | cons e tail =>
    by_cases hu : e = 'u'
    · subst hu
      have hhex : readStringFrom (.hex none 0 0) done tail = .ok r := by
        simpa [readStringFrom] using h
      obtain ⟨digits, n, tail, rfl, hunit, hbehind⟩ := unit_of_readStringFrom hhex
      cases htrail : isTrail n with
      | true => simp [behindUnit, htrail, faultBefore] at hbehind
      | false =>
        cases hlead : isLead n with
        | false => exact ⟨_, _, tail, .unit hunit hlead htrail, rfl⟩
        | true =>
          have hafter : readStringFrom (.afterLead n) done tail = .ok r := by
            simpa [behindUnit, htrail, hlead] using hbehind
          obtain ⟨digits', n', tail', rfl, hunit', htrail'⟩ := pair_of_afterLead hafter
          exact ⟨_, _, tail', .pair hunit hlead hunit' htrail', by simp⟩
    · cases hshort : shortEscape? e with
      | some d => exact ⟨_, _, tail, .short hshort, rfl⟩
      | none => simp [readStringFrom, hu, hshort, faultAt] at h

/-- The reader stands at the closing quote or takes one piece. -/
theorem piece_of_readStringFrom (h : readStringFrom .plain done cs = .ok (s, rest)) :
    (cs = '"' :: rest ∧ s = String.ofList done.reverse) ∨
      ∃ piece c tail, Piece piece c ∧ cs = piece ++ tail ∧
        readStringFrom .plain (c :: done) tail = .ok (s, rest) := by
  cases cs with
  | nil => cases h
  | cons c tail =>
    by_cases hquote : c = '"'
    · subst hquote
      cases h
      exact .inl ⟨rfl, rfl⟩
    · right
      obtain ⟨piece, d, tail', hpiece, heq⟩ : ∃ piece d tail', Piece piece d ∧
          c :: tail = piece ++ tail' := by
        by_cases hbackslash : c = '\\'
        · subst hbackslash
          exact piece_of_escape (by simpa [readStringFrom] using h)
        · by_cases hcontrol : c.toNat < 0x20
          · simp [readStringFrom, hquote, hbackslash, hcontrol, faultBefore] at h
          · exact ⟨_, _, tail, .plain hquote hbackslash (Nat.not_lt.mp hcontrol), rfl⟩
      -- reading the piece again shows how the reader goes on behind it
      rw [heq, readStringFrom_piece hpiece] at h
      exact ⟨piece, d, tail', hpiece, heq, h⟩

theorem readStringFrom_spelled (h : Spelled word chars) (done rest : List Char) :
    readStringFrom .plain done (word ++ '"' :: rest) =
      .ok (String.ofList (done.reverse ++ chars), rest) := by
  induction h generalizing done with
  | nil => simp [readStringFrom]
  | cons first more ih =>
    rw [List.append_assoc, readStringFrom_piece first, ih]
    simp

theorem spelled_of_readStringFrom (h : readStringFrom .plain done cs = .ok (s, rest)) :
    ∃ word chars, cs = word ++ '"' :: rest ∧ Spelled word chars ∧
      s = String.ofList (done.reverse ++ chars) := by
  -- every piece takes something off the text
  induction hn : cs.length using Nat.strongRecOn generalizing cs done with
  | ind n ih =>
    rcases piece_of_readStringFrom h with ⟨rfl, rfl⟩ | ⟨piece, c, tail, hpiece, rfl, htail⟩
    · exact ⟨[], [], rfl, .nil, by rw [List.append_nil]⟩
    · have hlength : tail.length < n := by
        have := List.length_pos_iff.mpr hpiece.ne_nil
        rw [← hn, List.length_append]
        omega
      obtain ⟨word, chars, rfl, hword, rfl⟩ := ih _ hlength htail rfl
      refine ⟨piece ++ word, c :: chars, by rw [List.append_assoc], .cons hpiece hword, ?_⟩
      simp

/-- A string is read exactly if it is spelled as what it is read as. -/
theorem readString_eq_ok :
    readString cs = .ok (s, rest) ↔ ∃ word, cs = word ++ '"' :: rest ∧ Spelled word s.toList := by
  constructor
  · intro h
    obtain ⟨word, chars, rfl, hword, rfl⟩ := spelled_of_readStringFrom h
    exact ⟨word, rfl, by simpa using hword⟩
  · rintro ⟨word, rfl, hword⟩
    rw [readString, readStringFrom_spelled hword]
    simp

end Reading

/-! ## Strings that are passed over -/

section Passing

variable {piece word cs rest : List Char}

theorem LoosePiece.ne_nil (h : LoosePiece piece) : piece ≠ [] := by
  cases h <;> exact List.cons_ne_nil _ _

theorem skipStringFrom_piece (h : LoosePiece piece) :
    skipStringFrom .plain (piece ++ cs) = skipStringFrom .plain cs := by
  cases h with
  | plain hquote hbackslash hcontrol =>
    rw [List.singleton_append, skipStringFrom, if_neg hquote, if_neg hbackslash,
      if_neg (Nat.not_lt.mpr hcontrol)]
  | @short e h =>
    have hu : e ≠ 'u' := by
      rintro rfl
      cases h
    simp [skipStringFrom, hu, h]
  | unit h => simp [skipStringFrom, skipStringFrom_unit h]

theorem piece_of_skipStringFrom (h : skipStringFrom .plain cs = .ok rest) :
    cs = '"' :: rest ∨
      ∃ piece tail, LoosePiece piece ∧ cs = piece ++ tail ∧
        skipStringFrom .plain tail = .ok rest := by
  cases cs with
  | nil => cases h
  | cons c tail =>
    by_cases hquote : c = '"'
    · subst hquote
      cases h
      exact .inl rfl
    · right
      obtain ⟨piece, tail', hpiece, heq⟩ : ∃ piece tail', LoosePiece piece ∧
          c :: tail = piece ++ tail' := by
        by_cases hbackslash : c = '\\'
        · subst hbackslash
          have hescape : skipStringFrom .escape tail = .ok rest := by
            simpa [skipStringFrom] using h
          cases tail with
          | nil => cases hescape
          | cons e tail =>
            by_cases hu : e = 'u'
            · subst hu
              have hhex : skipStringFrom (.hex 0) tail = .ok rest := by
                simpa [skipStringFrom] using hescape
              obtain ⟨digits, tail, rfl, hunit, -⟩ := unit_of_skipStringFrom hhex
              exact ⟨_, tail, .unit hunit, rfl⟩
            · cases hshort : (shortEscape? e).isSome with
              | true => exact ⟨_, tail, .short hshort, rfl⟩
              | false => simp [skipStringFrom, hu, hshort, faultAt] at hescape
        · by_cases hcontrol : c.toNat < 0x20
          · simp [skipStringFrom, hquote, hbackslash, hcontrol, faultBefore] at h
          · exact ⟨_, tail, .plain hquote hbackslash (Nat.not_lt.mp hcontrol), rfl⟩
      rw [heq, skipStringFrom_piece hpiece] at h
      exact ⟨piece, tail', hpiece, heq, h⟩

/-- A string is passed over exactly if it is one. -/
theorem skipString_eq_ok :
    skipString cs = .ok rest ↔ ∃ word, cs = word ++ '"' :: rest ∧ Loose word := by
  constructor
  · intro h
    rw [skipString] at h
    induction hn : cs.length using Nat.strongRecOn generalizing cs with
    | ind n ih =>
      rcases piece_of_skipStringFrom h with rfl | ⟨piece, tail, hpiece, rfl, htail⟩
      · exact ⟨[], rfl, .nil⟩
      · have hlength : tail.length < n := by
          have := List.length_pos_iff.mpr hpiece.ne_nil
          rw [← hn, List.length_append]
          omega
        obtain ⟨word, rfl, hword⟩ := ih _ hlength htail rfl
        exact ⟨piece ++ word, by rw [List.append_assoc], .cons hpiece hword⟩
  · rintro ⟨word, rfl, hword⟩
    rw [skipString]
    induction hword with
    | nil => rfl
    | cons first more ih => rw [List.append_assoc, skipStringFrom_piece first, ih]

theorem Loose.append {word' : List Char} (h : Loose word) (h' : Loose word') :
    Loose (word ++ word') := by
  induction h with
  | nil => exact h'
  | cons first more ih =>
    rw [List.append_assoc]
    exact .cons first ih

theorem LoosePiece.loose (h : LoosePiece piece) : Loose piece := by
  have hone := Loose.cons h .nil
  rwa [List.append_nil] at hone

/-- What is read as a string can be passed over as one. -/
theorem Spelled.loose {chars : List Char} (h : Spelled word chars) : Loose word := by
  induction h with
  | nil => exact .nil
  | @cons piece word chars c first rest ih =>
    refine Loose.append ?_ ih
    have hsome {digits : List Char} {n : Nat} (h : unit? digits = some n) :
        (unit? digits).isSome = true := by rw [h]; rfl
    cases first with
    | plain hquote hbackslash hcontrol => exact (LoosePiece.plain hquote hbackslash hcontrol).loose
    | short h => exact (LoosePiece.short (by rw [h]; rfl)).loose
    | unit h => exact (LoosePiece.unit (hsome h)).loose
    | pair h _ h' _ =>
      exact (LoosePiece.unit (hsome h)).loose.append (LoosePiece.unit (hsome h')).loose

end Passing

end HomeAgents.Json
