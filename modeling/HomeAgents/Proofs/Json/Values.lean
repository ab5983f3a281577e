import HomeAgents.Collection.Ordered
import HomeAgents.Proofs.Json.Messages
import HomeAgents.Proofs.Json.Records
import HomeAgents.Proofs.Text.Digits

/-!
# Values of an expected kind are read back

What stands for a text, a truth value, a number or a list of texts is read as that wherever a value
may end. A record whose fields may all be left out is read from an object that gives some of them,
in any order.
-/

namespace HomeAgents.Json

variable {α : Type} {v : α} {room limit : Nat} {text rest : List Char}

/-- A text is read as a value wherever a value may end. -/
def Yields (read : List Char → Except Fault (α × List Char)) (text : List Char) (v : α) : Prop :=
  ∀ rest, Ends rest → read (text ++ rest) = .ok (v, rest)

theorem Ends.stops (h : Ends rest) : Stops rest :=
  fun c hc => .inr (h c hc)

/-! ## Texts, truth values and names -/

theorem toList_stringText (s : String) : (stringText s).toList = stringChars s :=
  String.toList_ofList

theorem yields_readText (s : String) : Yields (readText room) (stringText s).toList s := by
  intro rest _
  rw [toList_stringText, readText_stringChars]

theorem yields_readBool (b : Bool) :
    Yields (readBool room) (if b then "true" else "false").toList b := by
  intro rest _
  cases b with
  | true => exact afterWord_append "rue" true rest
  | false => exact afterWord_append "alse" false rest

theorem yields_readVariant {variants : List (String × α)} {name : String}
    (h : variants.lookup name = some v) :
    Yields (readVariant variants room) (stringText name).toList v := by
  intro rest _
  rw [toList_stringText, stringChars_append, readVariant, skipGap_of_not_gap rfl]
  simp only [readVariantName, skipGap_of_not_gap (show isGap '"' = false from rfl),
    readString_stringChars, variantOf, h]

/-- What does not begin like `null` is read as something. -/
theorem Yields.option {value : Reader α} {c : Char} {cs : List Char}
    (h : Yields (value room) (c :: cs) v) (hgap : isGap c = false) (hn : c ≠ 'n') :
    Yields (readOption value room) (c :: cs) (some v) := by
  intro rest hrest
  have hvalue : value room (c :: (cs ++ rest)) = .ok (v, rest) := h rest hrest
  rw [List.cons_append, readOption, skipGap_of_not_gap hgap]
  split
  next heq =>
    obtain ⟨rfl, -⟩ := List.cons.inj heq
    exact absurd rfl hn
  next => rw [hvalue]

theorem yields_optionText (s : String) :
    Yields (readOption readText room) (stringText s).toList (some s) := by
  have h : Yields (readText room) (stringText s).toList s := yields_readText s
  rw [toList_stringText] at h ⊢
  exact h.option rfl (by decide)

/-! ## Numbers -/

theorem Yields.numberAs {expected : String} {convert : Number → Except Mismatch α} {n : Number}
    {c : Char} {cs : List Char} (h : Yields readNumber (c :: cs) n) (hc : startsNumber c = true)
    (hconvert : convert n = .ok v) : Yields (readNumberAs expected convert room) (c :: cs) v := by
  intro rest hrest
  have hread : readNumber (c :: (cs ++ rest)) = .ok (n, rest) := h rest hrest
  rw [List.cons_append, readNumberAs, skipGap_of_not_gap (isGap_of_startsNumber hc)]
  simp only [hc, if_true, hread, hconvert]

/-- A natural number is read back if it fits. -/
theorem yields_natural {name : String} {bits n : Nat} (hbits : bits ≤ 64) (hn : n < 2 ^ bits) :
    Yields (readNumberAs name (naturalOf name bits) room) (toString n).toList n := by
  have hwide : n < 2 ^ 64 := hn.trans_le (Nat.pow_le_pow_right (by decide) hbits)
  have hwhole : (Number.int n).Whole := by
    constructor
    · omega
    · exact_mod_cast hwide
  have htext : (numberText (.int n)).toList = (toString n).toList := rfl
  obtain ⟨c, cs, hchars, hc⟩ := numberText_starts hwhole
  rw [← htext, hchars]
  refine Yields.numberAs (n := .int n) (fun rest hrest => ?_) hc ?_
  · rw [← hchars]
    exact readNumber_numberText hwhole hrest
  · have hfits : (0 : Int) ≤ n ∧ (n : Int) < Nat.pow 2 bits :=
      ⟨Int.natCast_nonneg n, by exact_mod_cast hn⟩
    rw [naturalOf, if_pos hfits, Int.toNat_natCast]

theorem yields_optionNatural {name : String} {bits n : Nat} (hbits : bits ≤ 64)
    (hn : n < 2 ^ bits) :
    Yields (readOption (readNumberAs name (naturalOf name bits)) room) (toString n).toList
      (some n) := by
  have h : Yields (readNumberAs name (naturalOf name bits) room) (toString n).toList n :=
    yields_natural hbits hn
  have hdigits : (toString n).toList = Nat.toDigits 10 n := toString_ofNat_toList n
  obtain ⟨c, cs, hchars, -⟩ := toDigits_head n
  have hc : isDigit c = true := isDigit_of_mem (n := n) (hchars ▸ List.mem_cons_self)
  rw [hdigits, hchars] at h ⊢
  refine h.option (isGap_of_startsNumber (startsNumber_of_digit hc)) ?_
  rintro rfl
  cases hc

/-- A text without blanks. -/
def Solid (cs : List Char) : Prop :=
  ∀ c ∈ cs, isGap c = false

instance (cs : List Char) : Decidable (Solid cs) :=
  List.decidableBAll (fun c => isGap c = false) cs

section Solid

open Binary

variable {cs ds digits : List Char}

theorem Solid.append (h : Solid cs) (h' : Solid ds) : Solid (cs ++ ds) :=
  fun c hc => (List.mem_append.mp hc).elim (h c) (h' c)

theorem Solid.take (h : Solid cs) (n : Nat) : Solid (cs.take n) :=
  fun c hc => h c (List.mem_of_mem_take hc)

theorem Solid.drop (h : Solid cs) (n : Nat) : Solid (cs.drop n) :=
  fun c hc => h c (List.mem_of_mem_drop hc)

theorem solid_toDigits (n : Nat) : Solid (Nat.toDigits 10 n) :=
  fun _ hc => isGap_of_startsNumber (startsNumber_of_digit (isDigit_of_mem hc))

theorem solid_zeros (n : Nat) : Solid (zeros n).toList := by
  rw [zeros, Text.toList_pushn]
  intro c hc
  rw [List.eq_of_mem_replicate hc]
  decide

theorem solid_placed (h : Solid digits) (keepsDecimal : Bool) (point : Int) :
    Solid (placed keepsDecimal digits point).toList := by
  have hzero : Solid "0.".toList := by decide
  have hpoint : Solid ".".toList := by decide
  have htail : Solid (if keepsDecimal then ".0" else "").toList := by
    cases keepsDecimal <;> decide
  unfold placed
  dsimp only
  split
  next =>
    simp only [String.toList_append, String.toList_ofList]
    exact (hzero.append (solid_zeros _)).append h
  next =>
    split
    next =>
      simp only [String.toList_append, String.toList_ofList]
      exact (h.append (solid_zeros _)).append htail
    next =>
      simp only [String.toList_append, String.toList_ofList]
      exact ((h.take _).append hpoint).append (h.drop _)

theorem solid_scientific (h : Solid digits) (exponent : Int) :
    Solid (scientific digits exponent).toList := by
  have hpoint : Solid ".".toList := by decide
  have hfraction : Solid (if (digits.drop 1).isEmpty then ""
      else "." ++ String.ofList (digits.drop 1)).toList := by
    split
    next => exact nofun
    next =>
      simp only [String.toList_append, String.toList_ofList]
      exact hpoint.append (h.drop 1)
  have hletter : Solid (if exponent < 0 then "e-" else "e+").toList := by
    split <;> decide
  have hexponent : Solid (toString exponent.natAbs).toList := by
    have hdigits := solid_toDigits exponent.natAbs
    rwa [← toString_ofNat_toList] at hdigits
  rw [scientific, String.toList_append, String.toList_append, String.toList_append,
    String.toList_ofList]
  exact (((h.take 1).append hfraction).append hletter).append hexponent

/-- No blank stands in the text of a floating-point number. -/
theorem solid_realText (fmt : Format) (how : Layout) (x : Value) :
    Solid (realText fmt how x).toList := by
  have hnull : Solid "null".toList := by decide
  cases x with
  | nan => exact hnull
  | infinite negative => exact hnull
  | finite negative mant exp =>
    have hsign : Solid (if negative then "-" else "").toList := by
      cases negative <;> decide
    have hzero : Solid (if how.keepsDecimal then "0.0" else "0").toList := by
      cases how.keepsDecimal <;> decide
    rw [realText, Format.write]
    dsimp only
    split
    next =>
      rw [String.toList_append]
      exact hsign.append hzero
    next =>
      split
      next =>
        rw [String.toList_append]
        exact hsign.append (solid_placed (solid_toDigits _) _ _)
      next =>
        rw [String.toList_append]
        exact hsign.append (solid_scientific (solid_toDigits _) _)

end Solid

/-- What is read as a number by itself is read as the same number before whatever may follow. -/
theorem yields_of_readWhole {expected : String} {convert : Number → Except Mismatch α}
    (hsolid : Solid text)
    (h : readWhole (fun _ => readNumberAs expected convert) text = .ok v) :
    Yields (readNumberAs expected convert room) text v := by
  obtain ⟨behind, hread, hend⟩ : ∃ behind,
      readNumberAs expected convert maxDepth text = .ok (v, behind) ∧ skipGap behind = [] := by
    unfold readWhole at h
    split at h
    next => cases h
    next hvalue =>
      split at h
      next hend =>
        cases h
        exact ⟨_, hvalue, hend⟩
      next => cases h
  cases text with
  | nil => cases hread
  | cons c cs =>
    rw [readNumberAs, skipGap_of_not_gap (hsolid c List.mem_cons_self)] at hread
    dsimp only at hread
    split at hread
    next hc =>
      split at hread
      next => cases hread
      next n more hnumber =>
        split at hread
        next hconvert =>
          cases hread
          obtain ⟨numeral, hchars, hvalue⟩ := numeral_of_readNumber hnumber
          -- only blanks stand behind the number, and there are none
          have hnothing : behind = [] := by
            cases behind with
            | nil => rfl
            | cons d ds =>
              have hd : isGap d = false := hsolid d (by simp [hchars])
              rw [skipGap_of_not_gap hd] at hend
              cases hend
          rw [hnothing, List.append_nil] at hchars
          refine Yields.numberAs (fun rest hrest => ?_) hc hconvert
          rw [hchars]
          exact (readNumber_chars numeral (hrest.stops.ends numeral)).mpr ⟨hvalue, rfl⟩
        next => cases hread
    next => exact absurd hread refuse_ne_ok

/-! ## Lists and tables -/

theorem begins_stringChars (s : String) : Begins stringChars s :=
  ⟨'"', _, rfl, rfl, by decide⟩

theorem length_le_arrayText (items : List String) :
    items.length ≤ (arrayText items).toList.length := by
  have hcount := (length_joinComma (items.map String.toList)).1
  rw [List.length_map] at hcount
  rw [toList_arrayText, List.length_cons, List.length_append, List.length_singleton]
  omega

theorem length_le_objectText (members : List (String × String)) :
    members.length ≤ (objectText members).toList.length := by
  have hcount := (length_joinComma (members.map (memberPiece String.toList))).1
  rw [List.length_map] at hcount
  rw [toList_objectText, List.length_cons, List.length_append, List.length_singleton]
  omega

theorem length_lt_objectText {members : List (String × String)} {m : String × String}
    (h : m ∈ members) : m.2.toList.length < (objectText members).toList.length := by
  have hle := (length_joinComma (members.map (memberPiece String.toList))).2
    (memberPiece String.toList m) (List.mem_map_of_mem h)
  rw [memberPiece, List.length_append, List.length_cons] at hle
  rw [toList_objectText, List.length_cons, List.length_append]
  omega

theorem yields_readList {expected : String} (xs : List String) (hlimit : xs.length < limit) :
    Yields (readList limit expected readText (room + 1))
      (arrayText (xs.map stringText)).toList xs := by
  intro rest _
  have htexts : (xs.map stringText).map String.toList = xs.map stringChars := by
    rw [List.map_map]
    exact List.map_congr_left fun x _ => String.toList_ofList
  rw [toList_arrayText, htexts, List.cons_append, List.append_assoc, List.singleton_append,
    readList, skipGap_of_not_gap rfl]
  exact readItems_joinComma (fun x _ => begins_stringChars x)
    (fun x _ _ _ => readText_stringChars room x) hlimit

theorem yields_readMap (entries : Ordered String) (hlimit : entries.length < limit) :
    Yields (readMap limit readText (room + 1))
      (objectText (entries.map fun e => (e.1, stringText e.2))).toList entries := by
  intro rest _
  have hpieces : (entries.map fun e => (e.1, stringText e.2)).map (memberPiece String.toList) =
      entries.map (memberPiece stringChars) := by
    rw [List.map_map]
    exact List.map_congr_left fun e _ => by simp [memberPiece, stringText]
  rw [toList_objectText, hpieces, List.cons_append, List.append_assoc, List.singleton_append,
    readMap, skipGap_of_not_gap rfl]
  exact readMembers_joinComma (fun e _ _ _ => readText_stringChars room e.2) hlimit

/-! ## Records -/

section Records

variable {σ : Type} {r : Record σ} {fuel : Nat} {after : List String → σ} {given : List String}
  {members : List (String × String)}

/-- A member that a record takes: what it does to the record depends only on which fields have been
given before. -/
def Record.Takes (r : Record σ) (room : Nat) (after : List String → σ) (m : String × String) :
    Prop :=
  ∃ f set, r.fields.find? (fun f => f.name = m.1) = some f ∧
    Yields (f.read room) m.2.toList set ∧
    ∀ given, m.1 ∉ given →
      f.given (after given) = false ∧ set (after given) = after (m.1 :: given)

theorem readFields_pieces (hoptional : ∀ f ∈ r.fields, f.required = false)
    (htakes : ∀ m ∈ members, r.Takes room after m) (hnames : (members.map Prod.fst).Nodup)
    (hnew : ∀ m ∈ members, m.1 ∉ given) (hfuel : members.length < fuel) :
    r.readFields limit room fuel false (after given)
        ((members.map (memberPiece String.toList)).flatMap (',' :: ·) ++ '\x7d' :: rest) =
      .ok (after ((members.map Prod.fst).reverse ++ given), rest) := by
  induction members generalizing fuel given with
  | nil =>
    obtain ⟨fuel, rfl⟩ := Nat.exists_eq_add_one.mpr hfuel
    refine readFields_end (missing_eq_none.mpr fun f hf hrequired => ?_)
    rw [hoptional f hf] at hrequired
    cases hrequired
  | cons m ms ih =>
    obtain ⟨hm, hnames⟩ := List.nodup_cons.mp hnames
    rw [List.length_cons] at hfuel
    obtain ⟨fuel, rfl⟩ := Nat.exists_eq_add_one.mpr (Nat.zero_lt_of_lt hfuel)
    obtain ⟨f, set, hfind, hread, hset⟩ := htakes m List.mem_cons_self
    obtain ⟨hfree, hafter⟩ := hset given (hnew m List.mem_cons_self)
    have hlater : ∀ m' ∈ ms, m'.1 ∉ m.1 :: given := by
      intro m' hm'
      rw [List.mem_cons, not_or]
      exact ⟨fun heq => hm (List.mem_map.mpr ⟨m', hm', heq⟩), hnew m' (List.mem_cons_of_mem _ hm')⟩
    have hrest := ih (fun m' hm' => htakes m' (List.mem_cons_of_mem _ hm')) hnames hlater
      (Nat.lt_of_succ_lt_succ hfuel)
    rw [List.map_cons, List.flatMap_cons, memberPiece, List.cons_append, List.cons_append,
      List.append_assoc, List.append_assoc, List.cons_append,
      readFields_member (nextName_comma m.1) hfind hfree (hread _ (ends_pieces _ (.inr rfl) rest)),
      hafter, hrest, List.map_cons, List.reverse_cons, List.append_assoc, List.singleton_append]

/-- A record without required fields is read from an object with some of its fields. -/
theorem read_objectText (hoptional : ∀ f ∈ r.fields, f.required = false)
    (htakes : ∀ m ∈ members, r.Takes room after m) (hnames : (members.map Prod.fst).Nodup)
    (hlimit : members.length < limit) :
    r.read limit (after []) (room + 1) (objectText members).toList =
      .ok (after (members.map Prod.fst).reverse, []) := by
  have hbody : r.readFields limit room limit true (after [])
      (joinComma (members.map (memberPiece String.toList)) ++ ['\x7d']) =
        .ok (after (members.map Prod.fst).reverse, []) := by
    have hshift : r.readFields limit room limit false (after [])
        ((members.map (memberPiece String.toList)).flatMap (',' :: ·) ++ ['\x7d']) =
          .ok (after ((members.map Prod.fst).reverse ++ []), []) :=
      readFields_pieces hoptional htakes hnames (fun _ _ => List.not_mem_nil) hlimit
    obtain ⟨fuel, rfl⟩ := Nat.exists_eq_add_one.mpr (Nat.zero_lt_of_lt hlimit)
    rw [List.append_nil] at hshift
    cases members with
    | nil => exact hshift
    | cons m ms =>
      -- the first member is read as if a comma stood before it
      rw [List.map_cons, List.flatMap_cons, memberPiece, List.cons_append, List.cons_append,
        List.append_assoc, List.append_assoc, Record.readFields, nextName_comma] at hshift
      rw [List.map_cons, joinComma_cons, memberPiece, List.append_assoc, List.append_assoc,
        Record.readFields, nextName_first]
      exact hshift
  rw [toList_objectText, Record.read, skipGap_of_not_gap rfl]
  exact hbody

end Records

end HomeAgents.Json
