import HomeAgents.Json.Record
import HomeAgents.Proofs.Json.Grammar
import HomeAgents.Proofs.Json.Quotes
import HomeAgents.Proofs.Json.RoundTrip

/-!
# Readers read the grammar

A reader recognises a language of texts if it reads what the language has, and only that, where
nothing but a blank, a separator or the end stands behind it. The readers of texts, of values of any
kind and of the members of an object recognise what the exact dialect writes.
-/

namespace HomeAgents.Json

variable {α : Type}

/-- What a value begins with: neither a blank nor what closes an array. -/
def Begun (text : List Char) : Prop :=
  ∃ c cs, text = c :: cs ∧ isGap c = false ∧ c ≠ ']'

/-- A reader reads the texts of a language up to a length, behind blanks, and nothing else. -/
structure Recognises (limit : Nat) (read : List Char → Except Fault (α × List Char))
    (L : List Char → α → Prop) : Prop where
  sound : ∀ {cs v rest}, read cs = .ok (v, rest) →
    ∃ gap text, cs = gap ++ (text ++ rest) ∧ Gap gap ∧ L text v
  complete : ∀ {gap text v rest}, Gap gap → L text v → Stops rest → text.length ≤ limit →
    read (gap ++ (text ++ rest)) = .ok (v, rest)
  begun : ∀ {text v}, L text v → Begun text

/-! ## Blanks and separators -/

section Gaps

variable {cs rest gap text body : List Char} {c : Char} {first : Bool}

theorem skipGap_gap_append (hgap : Gap gap) (cs : List Char) : skipGap (gap ++ cs) = skipGap cs :=
  List.dropWhile_append_of_pos hgap

theorem readValue_gap {limit room : Nat} (hgap : Gap gap) (cs : List Char) :
    readValue limit room (gap ++ cs) = readValue limit room cs := by
  cases room <;> rw [readValue, readValue, skipGap_gap_append hgap]

theorem member_begun {N : List Char → String → Prop} {P : List Char → α → Prop}
    (text : List Char) (m : String × α) (h : Member N P text m) : Begun text := by
  cases h with
  | mk => exact ⟨'"', _, rfl, by decide⟩

theorem gap_of_skipGap {ds : List Char} (h : skipGap cs = ds) :
    ∃ gap, Gap gap ∧ cs = gap ++ ds := by
  subst h
  exact ⟨cs.takeWhile isGap, fun _ hc => List.mem_takeWhile_imp hc,
    List.takeWhile_append_dropWhile.symm⟩

/-- What begins and ends with single characters, as a part of the text it is read from. -/
theorem enclosed_of_skipGap {d : Char} (h : skipGap cs = c :: (body ++ d :: rest)) :
    ∃ gap, cs = gap ++ (c :: (body ++ [d]) ++ rest) ∧ Gap gap := by
  obtain ⟨gap, hgap, rfl⟩ := gap_of_skipGap h
  exact ⟨gap, by simp, hgap⟩

theorem skipGap_append (hgap : Gap gap) (hc : isGap c = false) :
    skipGap (gap ++ c :: cs) = c :: cs := by
  rw [skipGap, List.dropWhile_append_of_pos hgap, List.dropWhile_cons_of_neg]
  rw [hc]
  exact Bool.false_ne_true

theorem skipGap_gap (hgap : Gap gap) : skipGap gap = [] :=
  List.dropWhile_eq_nil_iff.mpr hgap

/-- What stands between an item and the bracket that closes the list. -/
theorem Listed.stops {P : List Char → α → Prop} {vs : List α} (h : Listed P false body vs)
    (hc : c = ']' ∨ c = '\x7d') (rest : List Char) : Stops (body ++ c :: rest) := by
  have hgap {gap tail : List Char} {d : Char} (hgap : Gap gap)
      (hd : d = ',' ∨ d = ']' ∨ d = '\x7d') : Stops (gap ++ d :: tail) := by
    cases gap with
    | nil => exact stops_cons (.inr hd)
    | cons g gap => exact stops_cons (.inl (hgap g List.mem_cons_self))
  cases h with
  | done h => exact hgap h (.inr hc)
  | item hlead hitem more =>
    cases hlead with
    | later h h' =>
      rw [List.append_assoc, List.append_assoc, List.cons_append]
      exact hgap h (.inl rfl)

theorem Listed.length_le {P : List Char → α → Prop} {vs : List α} (h : Listed P first body vs)
    (hP : ∀ text v, P text v → Begun text) : vs.length ≤ body.length := by
  induction h with
  | done => exact Nat.zero_le _
  | item hlead hitem more ih =>
    obtain ⟨c, cs, rfl, -⟩ := hP _ _ hitem
    simp only [List.length_cons, List.length_append]
    omega

theorem nextItem_item (hlead : Lead first gap) (htext : Begun text) (rest : List Char) :
    nextItem first (gap ++ (text ++ rest)) = .ok (true, text ++ rest) := by
  obtain ⟨c, cs, rfl, hc, hend⟩ := htext
  cases hlead with
  | first hgap => simp [nextItem, skipGap_append hgap hc]
  | @later gap gap' hgap hgap' =>
    have hcomma : skipGap (gap ++ ',' :: (gap' ++ c :: (cs ++ rest))) =
        ',' :: (gap' ++ c :: (cs ++ rest)) := skipGap_append hgap rfl
    simp [nextItem, hcomma, skipGap_append hgap' hc, hend]

theorem nextItem_end (hgap : Gap gap) (rest : List Char) :
    nextItem first (gap ++ ']' :: rest) = .ok (false, rest) := by
  have hend : isGap ']' = false := rfl
  simp only [nextItem, skipGap_append hgap hend]

theorem nextItem_ok {more : Bool} (h : nextItem first cs = .ok (more, rest)) :
    ∃ gap, if more then Lead first gap ∧ cs = gap ++ rest
      else Gap gap ∧ cs = gap ++ ']' :: rest := by
  unfold nextItem at h
  split at h
  case h_1 => cases h
  case h_2 hskip =>
    cases h
    exact gap_of_skipGap hskip
  case h_3 c tail _ hskip =>
    obtain ⟨gap, hgap, rfl⟩ := gap_of_skipGap hskip
    split at h
    case isTrue hfirst =>
      cases h
      subst hfirst
      exact ⟨gap, .first hgap, rfl⟩
    case isFalse hfirst =>
      obtain rfl := eq_false_of_ne_true hfirst
      split at h
      case isTrue hcomma =>
        subst hcomma
        obtain ⟨gap', hgap', htail⟩ := gap_of_skipGap (rfl : skipGap tail = _)
        split at h <;> cases h
        refine ⟨gap ++ ',' :: gap', .later hgap hgap', ?_⟩
        rw [List.append_assoc, List.cons_append, ← htail]
      case isFalse => cases h

theorem nextName_name {word : List Char} {name : String} (hlead : Lead first gap)
    (hword : Spelled word name.toList) (rest : List Char) :
    nextName first (gap ++ '"' :: (word ++ '"' :: rest)) = .ok (some name, rest) := by
  have hread : readString (word ++ '"' :: rest) = .ok (name, rest) :=
    readString_eq_ok.mpr ⟨word, rfl, hword⟩
  have hquote : isGap '"' = false := rfl
  cases hlead with
  | first hgap => simp [nextName, skipGap_append hgap hquote, hread]
  | later hgap hgap' =>
    have hcomma : isGap ',' = false := rfl
    simp [nextName, skipGap_append hgap hcomma, skipGap_append hgap' hquote, hread]

theorem nextName_close (hgap : Gap gap) (rest : List Char) :
    nextName first (gap ++ '\x7d' :: rest) = .ok (none, rest) := by
  have hend : isGap '\x7d' = false := rfl
  simp only [nextName, skipGap_append hgap hend]

theorem spelled_of_quoted {name : Option String}
    (h : (match readString cs with
      | .error e => .error e
      | .ok (s, rest) => .ok (some s, rest) : Except Fault (Option String × List Char)) =
        .ok (name, rest)) :
    ∃ s word, name = some s ∧ cs = word ++ '"' :: rest ∧ Spelled word s.toList := by
  split at h
  case h_1 => cases h
  case h_2 hread =>
    cases h
    obtain ⟨word, hcs, hword⟩ := readString_eq_ok.mp hread
    exact ⟨_, word, rfl, hcs, hword⟩

theorem nextName_ok {name : Option String} (h : nextName first cs = .ok (name, rest)) :
    (name = none ∧ ∃ gap, Gap gap ∧ cs = gap ++ '\x7d' :: rest) ∨
      ∃ s lead word, name = some s ∧ Lead first lead ∧ Spelled word s.toList ∧
        cs = lead ++ '"' :: (word ++ '"' :: rest) := by
  unfold nextName at h
  dsimp only at h
  split at h
  case h_1 => cases h
  case h_2 hskip =>
    cases h
    exact .inl ⟨rfl, gap_of_skipGap hskip⟩
  case h_3 hskip =>
    obtain ⟨gap, hgap, rfl⟩ := gap_of_skipGap hskip
    split at h
    case isTrue hfirst =>
      subst hfirst
      split at h
      case isTrue hquote =>
        subst hquote
        obtain ⟨s, word, rfl, rfl, hword⟩ := spelled_of_quoted h
        exact .inr ⟨s, gap, word, rfl, .first hgap, hword, rfl⟩
      case isFalse => cases h
    case isFalse hfirst =>
      obtain rfl := eq_false_of_ne_true hfirst
      split at h
      case isTrue hcomma =>
        subst hcomma
        split at h
        case h_2 hbehind =>
          obtain ⟨gap', hgap', rfl⟩ := gap_of_skipGap hbehind
          obtain ⟨s, word, rfl, rfl, hword⟩ := spelled_of_quoted h
          refine .inr ⟨s, gap ++ ',' :: gap', word, rfl, .later hgap hgap', hword, ?_⟩
          rw [List.append_assoc, List.cons_append]
        all_goals cases h
      case isFalse => cases h

theorem readColon_gap (hgap : Gap gap) (rest : List Char) :
    readColon (gap ++ ':' :: rest) = .ok rest := by
  have hcolon : isGap ':' = false := rfl
  simp only [readColon, skipGap_append hgap hcolon]

theorem readColon_ok (h : readColon cs = .ok rest) :
    ∃ gap, Gap gap ∧ cs = gap ++ ':' :: rest := by
  unfold readColon at h
  split at h
  case h_2 hskip =>
    cases h
    exact gap_of_skipGap hskip
  all_goals cases h

end Gaps

/-! ## Items and members -/

section Items

variable {read : List Char → Except Fault (α × List Char)} {L : List Char → α → Prop}
  {limit fuel : Nat} {first : Bool} {body cs rest text : List Char}

theorem readItems_listed {vs : List α} (hread : Recognises limit read L)
    (h : Listed L first body vs) (hfuel : vs.length < fuel) (hlimit : body.length ≤ limit)
    (done : List α) (rest : List Char) :
    readItems read fuel first done (body ++ ']' :: rest) = .ok (done.reverse ++ vs, rest) := by
  obtain ⟨fuel, rfl⟩ := Nat.exists_eq_add_one_of_ne_zero (Nat.ne_of_gt (Nat.zero_lt_of_lt hfuel))
  induction h generalizing fuel done with
  | done hgap => simp [readItems, nextItem_end hgap]
  | @item first lead text more v vs hlead hitem hmore ih =>
    rw [List.length_cons] at hfuel
    rw [List.length_append, List.length_append] at hlimit
    have hvalue : read (text ++ (more ++ ']' :: rest)) = .ok (v, more ++ ']' :: rest) :=
      hread.complete .nil hitem (hmore.stops (.inl rfl) rest) (by omega)
    obtain ⟨fuel, rfl⟩ := Nat.exists_eq_add_one_of_ne_zero (show fuel ≠ 0 by omega)
    have hrest := ih (by omega) (v :: done) fuel (by omega)
    rw [List.append_assoc, List.append_assoc, readItems, nextItem_item hlead (hread.begun hitem)]
    simp only [hvalue, hrest, List.reverse_cons, List.append_assoc, List.singleton_append]

theorem readItems_ok {done vs : List α} (hread : Recognises limit read L)
    (h : readItems read fuel first done cs = .ok (vs, rest)) :
    ∃ body items, cs = body ++ ']' :: rest ∧ vs = done.reverse ++ items ∧
      Listed L first body items := by
  induction fuel generalizing first done cs with
  | zero => cases h
  | succ fuel ih =>
    rw [readItems] at h
    split at h
    case h_1 => cases h
    case h_2 hnext =>
      cases h
      obtain ⟨gap, hgap, hcs⟩ := nextItem_ok hnext
      exact ⟨gap, [], hcs, (List.append_nil _).symm, .done hgap⟩
    case h_3 hnext =>
      obtain ⟨lead, hlead, hcs⟩ := nextItem_ok hnext
      split at h
      case h_1 => cases h
      case h_2 v more hitem =>
        obtain ⟨gap, text, htext, hgap, hv⟩ := hread.sound hitem
        obtain ⟨body, items, rfl, rfl, hitems⟩ := ih h
        refine ⟨(lead ++ gap) ++ (text ++ body), v :: items, ?_, ?_,
          .item (hlead.append hgap) hv hitems⟩
        · rw [hcs, htext]
          simp only [List.append_assoc]
        · simp only [List.reverse_cons, List.append_assoc, List.singleton_append]

theorem readMembers_listed {ms : List (String × α)} (hread : Recognises limit read L)
    (h : Listed (Member exact.name L) first body ms) (hfuel : ms.length < fuel)
    (hlimit : body.length ≤ limit) (done : List (String × α)) (rest : List Char) :
    readMembers read fuel first done (body ++ '\x7d' :: rest) = .ok (done.reverse ++ ms, rest) := by
  obtain ⟨fuel, rfl⟩ := Nat.exists_eq_add_one_of_ne_zero (Nat.ne_of_gt (Nat.zero_lt_of_lt hfuel))
  induction h generalizing fuel done with
  | done hgap => simp [readMembers, nextName_close hgap]
  | @item first lead text more m ms hlead hitem hmore ih =>
    obtain ⟨hname, hgap, hgap', hvalue⟩ := hitem
    rename_i word gap gap' text name v
    simp only [List.length_cons, List.length_append] at hfuel hlimit
    have hstops : Stops (more ++ '\x7d' :: rest) := hmore.stops (.inr rfl) rest
    have hmember : read (gap' ++ (text ++ (more ++ '\x7d' :: rest))) =
        .ok (v, more ++ '\x7d' :: rest) := hread.complete hgap' hvalue hstops (by omega)
    obtain ⟨fuel, rfl⟩ := Nat.exists_eq_add_one_of_ne_zero (show fuel ≠ 0 by omega)
    have hrest := ih (by omega) ((name, v) :: done) fuel (by omega)
    simp only [List.append_assoc, List.cons_append]
    rw [readMembers, nextName_name hlead hname]
    simp only [readColon_gap hgap, hmember, hrest, List.reverse_cons, List.append_assoc,
      List.singleton_append]

theorem readMembers_ok {done ms : List (String × α)} (hread : Recognises limit read L)
    (h : readMembers read fuel first done cs = .ok (ms, rest)) :
    ∃ body members, cs = body ++ '\x7d' :: rest ∧ ms = done.reverse ++ members ∧
      Listed (Member exact.name L) first body members := by
  induction fuel generalizing first done cs with
  | zero => cases h
  | succ fuel ih =>
    rw [readMembers] at h
    split at h
    case h_1 => cases h
    case h_2 hnext =>
      cases h
      obtain ⟨-, gap, hgap, hcs⟩ | ⟨s, lead, word, hname, -⟩ := nextName_ok hnext
      · exact ⟨gap, [], hcs, (List.append_nil _).symm, .done hgap⟩
      · cases hname
    case h_3 hnext =>
      obtain ⟨hname, -⟩ | ⟨s, lead, word, hname, hlead, hword, hcs⟩ := nextName_ok hnext
      · cases hname
      · cases hname
        split at h
        case h_1 => cases h
        case h_2 hcolon =>
          obtain ⟨gap, hgap, rfl⟩ := readColon_ok hcolon
          split at h
          case h_1 => cases h
          case h_2 v more hvalue =>
            obtain ⟨gap', text, rfl, hgap', hv⟩ := hread.sound hvalue
            obtain ⟨body, members, rfl, rfl, hmembers⟩ := ih h
            refine ⟨_, _ :: members, ?_, ?_, .item hlead (.mk hword hgap hgap' hv) hmembers⟩
            · rw [hcs]
              simp only [List.append_assoc, List.cons_append]
            · simp only [List.reverse_cons, List.append_assoc, List.singleton_append]

theorem readItems_body {vs : List α} (hread : Recognises limit read L)
    (h : Listed L true body vs) (hlimit : body.length < limit) (rest : List Char) :
    readItems read limit true [] (body ++ ']' :: rest) = .ok (vs, rest) := by
  have hfuel : vs.length < limit :=
    Nat.lt_of_le_of_lt (h.length_le fun _ _ => hread.begun) hlimit
  exact readItems_listed hread h hfuel hlimit.le [] rest

theorem readMembers_body {ms : List (String × α)} (hread : Recognises limit read L)
    (h : Listed (Member exact.name L) true body ms) (hlimit : body.length < limit)
    (rest : List Char) :
    readMembers read limit true [] (body ++ '\x7d' :: rest) = .ok (ms, rest) := by
  have hfuel : ms.length < limit := Nat.lt_of_le_of_lt (h.length_le member_begun) hlimit
  exact readMembers_listed hread h hfuel hlimit.le [] rest

end Items

/-! ## Values -/

section Values

variable {cs rest text : List Char} {limit room : Nat} {v : Json}

theorem readWord_eq_ok {ws : List Char} : readWord ws cs = .ok rest ↔ cs = ws ++ rest := by
  induction ws generalizing cs with
  | nil => simp [readWord]
  | cons w ws ih =>
    cases cs with
    | nil => simp [readWord, faultBefore]
    | cons c cs =>
      by_cases hc : c = w
      · simp [readWord, hc, ih]
      · simp [readWord, hc, faultAt]

theorem Numeral.begins (n : Numeral) : ∃ c cs, n.chars = c :: cs ∧ startsNumber c = true := by
  obtain ⟨d, tail, hwhole, hd⟩ := n.whole_spec.1.exists_cons
  cases hn : n.negative with
  | true => exact ⟨'-', n.body, by simp [Numeral.chars, Numeral.sign, hn], rfl⟩
  | false =>
    have hchars : n.chars = d :: (tail ++ (n.pointChars ++ scaleChars n.exponent)) := by
      simp [Numeral.chars, Numeral.sign, hn, Numeral.body, hwhole]
    exact ⟨d, _, hchars, startsNumber_of_digit hd⟩

/-- A value without brackets begins with neither a blank nor a bracket. -/
theorem looseScalar_begins (h : LooseScalar text) :
    ∃ c cs, text = c :: cs ∧ isGap c = false ∧ c ≠ ']' ∧ c ≠ '[' ∧ c ≠ '\x7b' := by
  cases h with
  | null => exact ⟨'n', _, rfl, by decide⟩
  | true => exact ⟨'t', _, rfl, by decide⟩
  | false => exact ⟨'f', _, rfl, by decide⟩
  | string => exact ⟨'"', _, rfl, by decide⟩
  | number n =>
    obtain ⟨c, cs, htext, hc⟩ := n.begins
    exact ⟨c, cs, htext, isGap_of_startsNumber hc, ne_of_startsNumber hc rfl,
      ne_of_startsNumber hc rfl, ne_of_startsNumber hc rfl⟩

theorem Dialect.Spells.begun {α ν : Type} {d : Dialect α ν} {depth : Nat} {v : α}
    (h : d.Spells depth text v) (hscalar : ∀ text v, d.scalar text v → LooseScalar text) :
    Begun text := by
  have hbegun (hv : d.scalar text v) : Begun text := by
    obtain ⟨c, cs, htext, hc, hend, -⟩ := looseScalar_begins (hscalar text v hv)
    exact ⟨c, cs, htext, hc, hend⟩
  cases depth with
  | zero => exact hbegun h
  | succ depth =>
    rcases h with h | ⟨vs, ⟨body, rfl, -⟩, -⟩ | ⟨ms, ⟨body, rfl, -⟩, -⟩
    · exact hbegun h
    · exact ⟨'[', _, rfl, by decide⟩
    · exact ⟨'\x7b', _, rfl, by decide⟩

theorem afterWord_append (word : String) (result : α) (rest : List Char) :
    afterWord word result (word.toList ++ rest) = .ok (result, rest) := by
  rw [afterWord, readWord_eq_ok.mpr rfl]

theorem afterWord_ok {word : String} {result v : α} (h : afterWord word result cs = .ok (v, rest)) :
    cs = word.toList ++ rest ∧ result = v := by
  unfold afterWord at h
  split at h
  case h_1 => cases h
  case h_2 hread =>
    cases h
    exact ⟨readWord_eq_ok.mp hread, rfl⟩

theorem readScalar_scalar (h : Scalar text v) (hrest : Stops rest) :
    readScalar (text ++ rest) = .ok (v, rest) := by
  cases h with
  | null => exact afterWord_append "ull" _ rest
  | true => exact afterWord_append "rue" _ rest
  | false => exact afterWord_append "alse" _ rest
  | @string word s hword =>
    have hread : readString (word ++ '"' :: rest) = .ok (s, rest) :=
      readString_eq_ok.mpr ⟨word, rfl, hword⟩
    simp [readScalar, hread]
  | @number n x hn =>
    obtain ⟨c, cs, htext, hc⟩ := n.begins
    have hread := (readNumber_chars n (hrest.ends n)).mpr ⟨hn, rfl⟩
    rw [htext, List.cons_append] at hread ⊢
    unfold readScalar
    split
    case h_1 hcs => cases hcs
    case h_6 hcs =>
      cases hcs
      rw [if_pos hc, hread]
    all_goals
      rename_i hcs
      cases hcs
      cases hc

theorem readScalar_ok (h : readScalar cs = .ok (v, rest)) :
    ∃ text, cs = text ++ rest ∧ Scalar text v := by
  unfold readScalar at h
  split at h
  case h_1 => cases h
  case h_2 =>
    obtain ⟨rfl, rfl⟩ := afterWord_ok h
    exact ⟨_, rfl, .null⟩
  case h_3 =>
    obtain ⟨rfl, rfl⟩ := afterWord_ok h
    exact ⟨_, rfl, .true⟩
  case h_4 =>
    obtain ⟨rfl, rfl⟩ := afterWord_ok h
    exact ⟨_, rfl, .false⟩
  case h_5 =>
    split at h
    case h_1 => cases h
    case h_2 hread =>
      cases h
      obtain ⟨word, rfl, hword⟩ := readString_eq_ok.mp hread
      exact ⟨'"' :: (word ++ ['"']), by simp, .string hword⟩
  case h_6 =>
    split at h
    case isTrue =>
      split at h
      case h_1 => cases h
      case h_2 hread =>
        cases h
        obtain ⟨n, hcs, hn⟩ := numeral_of_readNumber hread
        exact ⟨n.chars, hcs, .number hn⟩
    case isFalse => cases h

theorem exact_begun (h : exact.Spells room text v) : Begun text :=
  h.begun fun _ _ => Scalar.loose

/-- A value is read if its brackets nest at most as deep as there is room for. -/
theorem recognises_readValue (limit room : Nat) :
    Recognises limit (readValue limit room) (exact.Spells room) := by
  have hscalar {room : Nat} {gap text rest : List Char} {v : Json} (hgap : Gap gap)
      (hv : Scalar text v) (hrest : Stops rest) :
      readValue limit room (gap ++ (text ++ rest)) = .ok (v, rest) := by
    obtain ⟨c, cs, rfl, hc, -, hlist, hobject⟩ := looseScalar_begins hv.loose
    rw [readValue_gap hgap, List.cons_append, readValue_of_scalar hc hlist hobject]
    exact readScalar_scalar hv hrest
  -- without room for a bracket only values without brackets are left
  induction room with
  | zero =>
    refine ⟨?_, fun hgap hv hrest _ => hscalar hgap hv hrest, exact_begun⟩
    intro cs v rest h
    obtain ⟨gap, hgap, hcs⟩ := gap_of_skipGap (rfl : skipGap cs = _)
    rw [readValue] at h
    split at h
    case h_1 => cases h
    case h_2 => cases h
    case h_3 =>
      obtain ⟨text, htext, hv⟩ := readScalar_ok h
      exact ⟨gap, text, hcs.trans (congrArg _ htext), hgap, hv⟩
  | succ room ih =>
    refine ⟨?_, ?_, exact_begun⟩
    · intro cs v rest h
      obtain ⟨gap, hgap, hcs⟩ := gap_of_skipGap (rfl : skipGap cs = _)
      rw [readValue] at h
      split at h
      case h_1 hskip =>
        split at h
        case h_1 => cases h
        case h_2 hitems =>
          cases h
          obtain ⟨body, items, rfl, rfl, hlisted⟩ := readItems_ok ih hitems
          obtain ⟨gap, hcs, hgap⟩ := enclosed_of_skipGap hskip
          exact ⟨gap, _, hcs, hgap, .inr (.inl ⟨_, ⟨body, rfl, hlisted⟩, rfl⟩)⟩
      case h_2 hskip =>
        split at h
        case h_1 => cases h
        case h_2 hmembers =>
          cases h
          obtain ⟨body, members, rfl, rfl, hlisted⟩ := readMembers_ok ih hmembers
          obtain ⟨gap, hcs, hgap⟩ := enclosed_of_skipGap hskip
          exact ⟨gap, _, hcs, hgap, .inr (.inr ⟨_, ⟨body, rfl, hlisted⟩, rfl⟩)⟩
      case h_3 =>
        obtain ⟨text, htext, hv⟩ := readScalar_ok h
        exact ⟨gap, text, hcs.trans (congrArg _ htext), hgap, .inl hv⟩
    · intro gap text v rest hgap hv hrest hlimit
      rcases hv with hv | ⟨vs, ⟨body, rfl, hlisted⟩, rfl⟩ | ⟨ms, ⟨body, rfl, hlisted⟩, rfl⟩
      · exact hscalar hgap hv hrest
      · simp only [List.length_cons, List.length_append, List.length_nil] at hlimit
        have hitems := readItems_body ih hlisted (by omega) rest
        have hgap : skipGap (gap ++ '[' :: (body ++ ']' :: rest)) = '[' :: (body ++ ']' :: rest) :=
          skipGap_append hgap rfl
        simp [readValue, hgap, hitems, exact]
      · simp only [List.length_cons, List.length_append, List.length_nil] at hlimit
        have hmembers := readMembers_body ih hlisted (by omega) rest
        have hgap : skipGap (gap ++ '\x7b' :: (body ++ '\x7d' :: rest)) =
            '\x7b' :: (body ++ '\x7d' :: rest) := skipGap_append hgap rfl
        simp [readValue, hgap, hmembers, exact]

/-- A string is read whatever stands behind it. -/
theorem readText_quoted {gap : List Char} {s : String} (hgap : Gap gap) (h : Quoted text s)
    (room : Nat) (rest : List Char) : readText room (gap ++ (text ++ rest)) = .ok (s, rest) := by
  obtain ⟨word, rfl, hword⟩ := h
  have hread : readString (word ++ '"' :: rest) = .ok (s, rest) :=
    readString_eq_ok.mpr ⟨word, rfl, hword⟩
  have hgap : skipGap (gap ++ '"' :: (word ++ '"' :: rest)) = '"' :: (word ++ '"' :: rest) :=
    skipGap_append hgap rfl
  simp [readText, hgap, hread]

theorem recognises_readText (limit room : Nat) : Recognises limit (readText room) Quoted := by
  refine ⟨?_, fun hgap h _ _ => readText_quoted hgap h room _, ?_⟩
  · intro cs s rest h
    unfold readText at h
    split at h
    case h_1 hskip =>
      obtain ⟨word, rfl, hword⟩ := readString_eq_ok.mp h
      obtain ⟨gap, hcs, hgap⟩ := enclosed_of_skipGap hskip
      exact ⟨gap, _, hcs, hgap, word, rfl, hword⟩
    case h_2 => exact absurd h refuse_ne_ok
  · rintro text s ⟨word, rfl, -⟩
    exact ⟨'"', _, rfl, by decide⟩

/-- The members of an object are read in the order of the text. -/
theorem recognises_readMap (limit room : Nat) :
    Recognises limit (readMap limit (readValue limit) (room + 1))
      (Braced exact.name (exact.Spells room)) := by
  have hread := recognises_readValue limit room
  refine ⟨?_, ?_, ?_⟩
  · intro cs ms rest h
    unfold readMap at h
    split at h
    case h_1 hskip =>
      obtain ⟨body, members, rfl, rfl, hlisted⟩ := readMembers_ok hread h
      obtain ⟨gap, hcs, hgap⟩ := enclosed_of_skipGap hskip
      exact ⟨gap, _, hcs, hgap, body, rfl, hlisted⟩
    case h_2 => exact absurd h refuse_ne_ok
  · rintro gap text ms rest hgap ⟨body, rfl, hlisted⟩ - hlimit
    simp only [List.length_cons, List.length_append, List.length_nil] at hlimit
    have hmembers := readMembers_body hread hlisted (by omega) rest
    have hgap : skipGap (gap ++ '\x7b' :: (body ++ '\x7d' :: rest)) =
        '\x7b' :: (body ++ '\x7d' :: rest) := skipGap_append hgap rfl
    simp [readMap, hgap, hmembers]
  · rintro text ms ⟨body, rfl, -⟩
    exact ⟨'\x7b', _, rfl, by decide⟩

end Values

end HomeAgents.Json
