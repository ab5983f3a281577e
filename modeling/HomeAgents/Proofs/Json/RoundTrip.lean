import HomeAgents.Json.Record
import HomeAgents.Proofs.Json.Token

/-!
# Values are read back

The text of a value is read back as the value, if its numbers are whole and fit into 64 bits and its
brackets do not nest too deep. No blank stands between the tokens of the text, so every reader finds
its token at once.
-/

namespace HomeAgents

namespace Sorted

variable {α : Type} {name : String} {value : α} {m ms : Sorted α}

/-- A name behind all others is set at the end. -/
theorem insert_of_lt (h : ∀ e ∈ m, e.1 < name) : insert name value m = m ++ [(name, value)] := by
  induction m with
  | nil => rfl
  | cons e m ih =>
    have hlt : e.1 < name := h e List.mem_cons_self
    have hne : name ≠ e.1 := fun heq => String.lt_irrefl _ (heq ▸ hlt)
    rw [insert, if_neg (String.lt_asymm hlt), if_neg hne,
      ih fun e' he' => h e' (List.mem_cons_of_mem _ he')]
    rfl

theorem foldl_insert (h : (m ++ ms).Increasing) :
    ms.foldl (fun m e => insert e.1 e.2 m) m = m ++ ms := by
  induction ms generalizing m with
  | nil => rw [List.foldl_nil, List.append_nil]
  | cons e ms ih =>
    have hlt : ∀ e' ∈ m, e'.1 < e.1 := fun e' he' =>
      (List.pairwise_append.mp h).2.2 e' he' e List.mem_cons_self
    rw [List.foldl_cons, insert_of_lt hlt, ih]
    · rw [List.append_assoc, List.singleton_append]
    · rwa [Increasing, List.append_assoc, List.singleton_append]

/-- Entries whose names increase are their own sorted form. -/
theorem ofList_of_increasing (h : ms.Increasing) : ofList ms = ms :=
  foldl_insert (m := []) h

end Sorted

namespace Json

mutual

/-- A value whose numbers are whole and fit into 64 bits, with increasing names in its objects. -/
def Proper : Json → Prop
  | number n => n.Whole
  | array items => ProperItems items
  | object members => Sorted.Increasing members ∧ ProperMembers members
  | _ => True

/-- The items of an array are proper. -/
def ProperItems : List Json → Prop
  | [] => True
  | v :: vs => Proper v ∧ ProperItems vs

/-- The values of an object are proper. -/
def ProperMembers : List (String × Json) → Prop
  | [] => True
  | (_, v) :: ms => Proper v ∧ ProperMembers ms

end

mutual

/-- How deep the brackets of a value nest. -/
def depth : Json → Nat
  | array items => itemDepth items + 1
  | object members => memberDepth members + 1
  | _ => 0

/-- How deep the brackets of the items of an array nest. -/
def itemDepth : List Json → Nat
  | [] => 0
  | v :: vs => max (depth v) (itemDepth vs)

/-- How deep the brackets of the values of an object nest. -/
def memberDepth : List (String × Json) → Nat
  | [] => 0
  | (_, v) :: ms => max (depth v) (memberDepth ms)

end

variable {rest : List Char}

theorem joinComma_cons (piece : List Char) (pieces : List (List Char)) :
    joinComma (piece :: pieces) = piece ++ pieces.flatMap (',' :: ·) := by
  induction pieces generalizing piece with
  | nil => simp [joinComma]
  | cons next pieces ih => rw [joinComma, ih, List.flatMap_cons, List.cons_append]; exact nofun

theorem skipGap_of_not_gap {c : Char} (h : isGap c = false) (cs : List Char) :
    skipGap (c :: cs) = c :: cs := by
  rw [skipGap, List.dropWhile_cons_of_neg]
  rw [h]
  exact Bool.false_ne_true

/-- A character that begins a number begins nothing else. -/
theorem ne_of_startsNumber {c d : Char} (h : startsNumber c = true) (hd : startsNumber d = false) :
    c ≠ d := by
  rintro rfl
  rw [hd] at h
  cases h

theorem isGap_of_startsNumber {c : Char} (h : startsNumber c = true) : isGap c = false := by
  by_contra hgap
  simp only [isGap, Bool.not_eq_false, Bool.or_eq_true, decide_eq_true_eq] at hgap
  rcases hgap with ((rfl | rfl) | rfl) | rfl <;> cases h

/-- The text of a value begins with neither a blank nor what closes an array. -/
theorem chars_begins {v : Json} (h : v.Proper) :
    ∃ c cs, v.chars = c :: cs ∧ isGap c = false ∧ c ≠ ']' := by
  cases v with
  | null => exact ⟨'n', "ull".toList, rfl, by decide⟩
  | bool b =>
    cases b with
    | false => exact ⟨'f', "alse".toList, rfl, by decide⟩
    | true => exact ⟨'t', "rue".toList, rfl, by decide⟩
  | number n =>
    obtain ⟨c, cs, htext, hstart⟩ := numberText_starts h
    exact ⟨c, cs, htext, isGap_of_startsNumber hstart, ne_of_startsNumber hstart rfl⟩
  | string s => exact ⟨'"', _, rfl, by decide⟩
  | array items => exact ⟨'[', _, rfl, by decide⟩
  | object members => exact ⟨'\x7b', _, rfl, by decide⟩

theorem readScalar_number {n : Number} (h : n.Whole) (hrest : Ends rest) :
    readScalar ((numberText n).toList ++ rest) = .ok (.number n, rest) := by
  obtain ⟨c, cs, htext, hstart⟩ := numberText_starts h
  have hread := readNumber_numberText h hrest
  rw [htext, List.cons_append] at hread ⊢
  unfold readScalar
  split
  case h_6 c' cs' _ _ _ _ hcs =>
    cases hcs
    rw [if_pos hstart, hread]
  case h_1 hcs => cases hcs
  all_goals
    rename_i hcs
    cases hcs
    cases hstart

theorem readValue_of_scalar {c : Char} (hgap : isGap c = false) (hlist : c ≠ '[')
    (hobject : c ≠ '\x7b') (limit room : Nat) (cs : List Char) :
    readValue limit room (c :: cs) = readScalar (c :: cs) := by
  cases room
  all_goals
    rw [readValue, skipGap_of_not_gap hgap]
    split
    case h_1 hcs => exact absurd (List.cons.inj hcs).1 hlist
    case h_2 hcs => exact absurd (List.cons.inj hcs).1 hobject
    case h_3 => rfl

/-! ## What separates values -/

section Separators

theorem nextItem_first {c : Char} (hgap : isGap c = false) (hend : c ≠ ']') (cs : List Char) :
    nextItem true (c :: cs) = .ok (true, c :: cs) := by
  rw [nextItem, skipGap_of_not_gap hgap]
  split
  case h_1 hcs => cases hcs
  case h_2 hcs => exact absurd (List.cons.inj hcs).1 hend
  case h_3 hcs =>
    cases hcs
    rfl

theorem nextItem_comma {c : Char} (hgap : isGap c = false) (hend : c ≠ ']') (cs : List Char) :
    nextItem false (',' :: c :: cs) = .ok (true, c :: cs) := by
  have hcomma : skipGap (',' :: c :: cs) = ',' :: c :: cs := skipGap_of_not_gap rfl _
  simp [nextItem, hcomma, skipGap_of_not_gap hgap, hend]

theorem nextName_first (name : String) :
    nextName true (stringChars name ++ rest) = .ok (some name, rest) := by
  have hquote : skipGap (stringChars name ++ rest) = stringChars name ++ rest :=
    skipGap_of_not_gap rfl _
  rw [nextName, hquote, stringChars_append]
  simp [readString_stringChars]

theorem nextName_comma (name : String) :
    nextName false (',' :: (stringChars name ++ rest)) = .ok (some name, rest) := by
  have hcomma (cs : List Char) : skipGap (',' :: cs) = ',' :: cs := skipGap_of_not_gap rfl cs
  have hquote (cs : List Char) : skipGap ('"' :: cs) = '"' :: cs := skipGap_of_not_gap rfl cs
  rw [nextName, hcomma, stringChars_append]
  simp [hquote, readString_stringChars]

theorem nextName_end (first : Bool) : nextName first ('\x7d' :: rest) = .ok (none, rest) := rfl

theorem readColon_colon : readColon (':' :: rest) = .ok rest := rfl

end Separators

/-! ## Items and members -/

section Items

variable {α : Type} {print : α → List Char} {fuel : Nat}
  {read : List Char → Except Fault (α × List Char)}

/-- A reader reads back a value that is printed where nothing but a separator stands behind it. -/
def ReadsBack (read : List Char → Except Fault (α × List Char)) (print : α → List Char)
    (v : α) : Prop :=
  ∀ rest, Ends rest → read (print v ++ rest) = .ok (v, rest)

/-- A printed value that an array may hold: it begins with neither a blank nor a bracket that closes
the array. -/
def Begins (print : α → List Char) (v : α) : Prop :=
  ∃ c cs, print v = c :: cs ∧ isGap c = false ∧ c ≠ ']'

/-- The printed member of an object. -/
def memberPiece (print : α → List Char) (m : String × α) : List Char :=
  stringChars m.1 ++ ':' :: print m.2

theorem ends_pieces (pieces : List (List Char)) {c : Char} (hc : c = ']' ∨ c = '\x7d')
    (rest : List Char) : Ends (pieces.flatMap (',' :: ·) ++ c :: rest) := by
  cases pieces with
  | nil =>
    rintro _ ⟨⟩
    exact .inr hc
  | cons piece pieces =>
    rintro _ ⟨⟩
    exact .inl rfl

theorem nextItem_print {v : α} (h : Begins print v) (rest : List Char) :
    nextItem true (print v ++ rest) = .ok (true, print v ++ rest) ∧
      nextItem false (',' :: (print v ++ rest)) = .ok (true, print v ++ rest) := by
  obtain ⟨c, cs, hprint, hgap, hend⟩ := h
  rw [hprint, List.cons_append]
  exact ⟨nextItem_first hgap hend _, nextItem_comma hgap hend _⟩

theorem readItems_pieces {items : List α} (done : List α) (rest : List Char)
    (hbegins : ∀ v ∈ items, Begins print v) (hreads : ∀ v ∈ items, ReadsBack read print v)
    (hfuel : items.length < fuel) :
    readItems read fuel false done ((items.map print).flatMap (',' :: ·) ++ ']' :: rest) =
      .ok (done.reverse ++ items, rest) := by
  induction items generalizing fuel done with
  | nil =>
    obtain ⟨fuel, rfl⟩ := Nat.exists_eq_add_one.mpr hfuel
    rw [List.append_nil]
    rfl
  | cons v vs ih =>
    rw [List.length_cons] at hfuel
    obtain ⟨fuel, rfl⟩ := Nat.exists_eq_add_one.mpr (Nat.zero_lt_of_lt hfuel)
    have hnext := (nextItem_print (hbegins v List.mem_cons_self)
      ((vs.map print).flatMap (',' :: ·) ++ ']' :: rest)).2
    have hread := hreads v List.mem_cons_self _ (ends_pieces (vs.map print) (.inl rfl) rest)
    have hrest := ih (v :: done) (fun w hw => hbegins w (List.mem_cons_of_mem _ hw))
      (fun w hw => hreads w (List.mem_cons_of_mem _ hw)) (Nat.lt_of_succ_lt_succ hfuel)
    rw [List.map_cons, List.flatMap_cons, List.cons_append, List.cons_append, List.append_assoc]
    simp only [readItems, hnext, hread, hrest, List.reverse_cons, List.append_assoc,
      List.singleton_append]

/-- The items of an array are read back. -/
theorem readItems_joinComma {items : List α} (hbegins : ∀ v ∈ items, Begins print v)
    (hreads : ∀ v ∈ items, ReadsBack read print v) (hfuel : items.length < fuel) :
    readItems read fuel true [] (joinComma (items.map print) ++ ']' :: rest) =
      .ok (items, rest) := by
  cases items with
  | nil =>
    obtain ⟨fuel, rfl⟩ := Nat.exists_eq_add_one.mpr hfuel
    rfl
  | cons v vs =>
    obtain ⟨fuel, rfl⟩ := Nat.exists_eq_add_one.mpr (Nat.zero_lt_of_lt hfuel)
    obtain ⟨hfirst, hcomma⟩ := nextItem_print (hbegins v List.mem_cons_self)
      ((vs.map print).flatMap (',' :: ·) ++ ']' :: rest)
    -- the first item is read as if a comma stood before it
    have hshift := readItems_pieces [] rest hbegins hreads hfuel
    rw [List.map_cons, List.flatMap_cons, List.cons_append, List.cons_append, List.append_assoc,
      readItems, hcomma] at hshift
    rw [List.map_cons, joinComma_cons, List.append_assoc, readItems, hfirst]
    exact hshift

theorem readMembers_pieces {members : List (String × α)} (done : List (String × α))
    (rest : List Char)
    (hreads : ∀ m ∈ members, ReadsBack read print m.2) (hfuel : members.length < fuel) :
    readMembers read fuel false done
        ((members.map (memberPiece print)).flatMap (',' :: ·) ++ '\x7d' :: rest) =
      .ok (done.reverse ++ members, rest) := by
  induction members generalizing fuel done with
  | nil =>
    obtain ⟨fuel, rfl⟩ := Nat.exists_eq_add_one.mpr hfuel
    rw [List.append_nil]
    rfl
  | cons m ms ih =>
    rw [List.length_cons] at hfuel
    obtain ⟨fuel, rfl⟩ := Nat.exists_eq_add_one.mpr (Nat.zero_lt_of_lt hfuel)
    have hread := hreads m List.mem_cons_self _
      (ends_pieces (ms.map (memberPiece print)) (.inr rfl) rest)
    have hrest := ih (m :: done) (fun w hw => hreads w (List.mem_cons_of_mem _ hw))
      (Nat.lt_of_succ_lt_succ hfuel)
    rw [List.map_cons, List.flatMap_cons, memberPiece, List.cons_append, List.cons_append,
      List.append_assoc, List.append_assoc, List.cons_append]
    simp only [readMembers, nextName_comma, readColon_colon, hread, hrest, List.reverse_cons,
      List.append_assoc, List.singleton_append]

/-- The members of an object are read back. -/
theorem readMembers_joinComma {members : List (String × α)}
    (hreads : ∀ m ∈ members, ReadsBack read print m.2) (hfuel : members.length < fuel) :
    readMembers read fuel true []
        (joinComma (members.map (memberPiece print)) ++ '\x7d' :: rest) =
      .ok (members, rest) := by
  cases members with
  | nil =>
    obtain ⟨fuel, rfl⟩ := Nat.exists_eq_add_one.mpr hfuel
    rfl
  | cons m ms =>
    obtain ⟨fuel, rfl⟩ := Nat.exists_eq_add_one.mpr (Nat.zero_lt_of_lt hfuel)
    -- the first member is read as if a comma stood before it
    have hshift := readMembers_pieces [] rest hreads hfuel
    rw [List.map_cons, List.flatMap_cons, memberPiece, List.cons_append, List.cons_append,
      List.append_assoc, List.append_assoc, readMembers, nextName_comma] at hshift
    rw [List.map_cons, joinComma_cons, memberPiece, List.append_assoc, List.append_assoc,
      readMembers, nextName_first]
    exact hshift

end Items

/-! ## Values -/

theorem itemPieces_eq (items : List Json) : itemPieces items = items.map chars := by
  induction items with
  | nil => rfl
  | cons v vs ih => rw [itemPieces, ih, List.map_cons]

theorem memberPieces_eq (members : List (String × Json)) :
    memberPieces members = members.map (memberPiece chars) := by
  induction members with
  | nil => rfl
  | cons m ms ih => rw [memberPieces, ih, List.map_cons, memberPiece]

theorem chars_array (items : List Json) :
    (array items).chars = '[' :: (joinComma (items.map chars) ++ [']']) := by
  rw [← itemPieces_eq]
  rfl

theorem chars_object (members : List (String × Json)) :
    (object members).chars =
      '\x7b' :: (joinComma (members.map (memberPiece chars)) ++ ['\x7d']) := by
  rw [← memberPieces_eq]
  rfl

theorem ProperItems.of_mem {items : List Json} (h : ProperItems items) : ∀ v ∈ items, v.Proper := by
  induction items with
  | nil => nofun
  | cons v vs ih =>
    obtain ⟨hv, hvs⟩ := h
    exact List.forall_mem_cons.mpr ⟨hv, ih hvs⟩

theorem ProperMembers.of_mem {members : List (String × Json)} (h : ProperMembers members) :
    ∀ m ∈ members, m.2.Proper := by
  induction members with
  | nil => nofun
  | cons m ms ih =>
    obtain ⟨hm, hms⟩ := h
    exact List.forall_mem_cons.mpr ⟨hm, ih hms⟩

theorem depth_le_itemDepth (items : List Json) : ∀ v ∈ items, v.depth ≤ itemDepth items := by
  induction items with
  | nil => nofun
  | cons v vs ih =>
    rw [itemDepth]
    refine List.forall_mem_cons.mpr ⟨Nat.le_max_left .., fun w hw => ?_⟩
    exact (ih w hw).trans (Nat.le_max_right ..)

theorem depth_le_memberDepth (members : List (String × Json)) :
    ∀ m ∈ members, m.2.depth ≤ memberDepth members := by
  induction members with
  | nil => nofun
  | cons m ms ih =>
    rw [memberDepth]
    refine List.forall_mem_cons.mpr ⟨Nat.le_max_left .., fun w hw => ?_⟩
    exact (ih w hw).trans (Nat.le_max_right ..)

theorem length_pieces (pieces : List (List Char)) :
    pieces.length ≤ (pieces.flatMap (',' :: ·)).length ∧
      ∀ p ∈ pieces, p.length ≤ (pieces.flatMap (',' :: ·)).length := by
  induction pieces with
  | nil => exact ⟨Nat.le_refl 0, nofun⟩
  | cons piece pieces ih =>
    obtain ⟨hcount, hpieces⟩ := ih
    rw [List.flatMap_cons, List.length_append, List.length_cons, List.length_cons]
    refine ⟨by omega, List.forall_mem_cons.mpr ⟨by omega, fun p hp => ?_⟩⟩
    have := hpieces p hp
    omega

/-- Joined pieces are no shorter than each of them, and there is a comma between any two. -/
theorem length_joinComma (pieces : List (List Char)) :
    pieces.length ≤ (joinComma pieces).length + 1 ∧
      ∀ p ∈ pieces, p.length ≤ (joinComma pieces).length := by
  cases pieces with
  | nil => exact ⟨Nat.zero_le _, nofun⟩
  | cons piece pieces =>
    obtain ⟨hcount, hpieces⟩ := length_pieces pieces
    rw [joinComma_cons, List.length_append, List.length_cons]
    refine ⟨by omega, List.forall_mem_cons.mpr ⟨by omega, fun p hp => ?_⟩⟩
    have := hpieces p hp
    omega

/-- The text of an array gives enough fuel to read its items. -/
theorem readItems_chars {read : List Char → Except Fault (Json × List Char)} {limit : Nat}
    {items : List Json} (hbegins : ∀ v ∈ items, Begins chars v)
    (hreads : ∀ v ∈ items, ReadsBack read chars v) (hlength : (array items).chars.length ≤ limit) :
    readItems read limit true [] (joinComma (items.map chars) ++ ']' :: rest) =
      .ok (items, rest) := by
  rw [chars_array, List.length_cons, List.length_append, List.length_singleton] at hlength
  have hcount := (length_joinComma (items.map chars)).1
  rw [List.length_map] at hcount
  exact readItems_joinComma hbegins hreads (by omega)

/-- The text of an object gives enough fuel to read its members. -/
theorem readMembers_chars {read : List Char → Except Fault (Json × List Char)} {limit : Nat}
    {members : List (String × Json)} (hreads : ∀ m ∈ members, ReadsBack read chars m.2)
    (hlength : (object members).chars.length ≤ limit) :
    readMembers read limit true []
        (joinComma (members.map (memberPiece chars)) ++ '\x7d' :: rest) =
      .ok (members, rest) := by
  rw [chars_object, List.length_cons, List.length_append, List.length_singleton] at hlength
  have hcount := (length_joinComma (members.map (memberPiece chars))).1
  rw [List.length_map] at hcount
  exact readMembers_joinComma hreads (by omega)

theorem length_item_lt {items : List Json} {v : Json} (h : v ∈ items) :
    v.chars.length < (array items).chars.length := by
  have hle := (length_joinComma (items.map chars)).2 v.chars (List.mem_map_of_mem h)
  rw [chars_array, List.length_cons, List.length_append]
  omega

theorem length_member_lt {members : List (String × Json)} {m : String × Json} (h : m ∈ members) :
    m.2.chars.length < (object members).chars.length := by
  have hle := (length_joinComma (members.map (memberPiece chars))).2 (memberPiece chars m)
    (List.mem_map_of_mem h)
  rw [memberPiece, List.length_append, List.length_cons] at hle
  rw [chars_object, List.length_cons, List.length_append]
  omega

theorem sizeOf_member_lt {members : List (String × Json)} {m : String × Json} (h : m ∈ members) :
    sizeOf m.2 < sizeOf members := by
  have hmem := List.sizeOf_lt_of_mem h
  have hpair : sizeOf m.2 < sizeOf m := by
    rw [Prod.mk.sizeOf_spec]
    omega
  omega

theorem readsBack_string (limit room : Nat) (s : String) :
    ReadsBack (readValue limit room) chars (.string s) := by
  intro rest _
  change readValue limit room (stringChars s ++ rest) = _
  rw [stringChars_append, readValue_of_scalar rfl (by decide) (by decide), readScalar,
    readString_stringChars]

/-- A proper value is read back where its brackets have room. -/
theorem readValue_chars (limit room : Nat) (v : Json) (hproper : v.Proper)
    (hdepth : v.depth ≤ room) (hlength : v.chars.length ≤ limit) :
    ReadsBack (readValue limit room) chars v := by
  intro rest hrest
  match v with
  | null => exact readValue_of_scalar rfl (by decide) (by decide) limit room _
  | bool true => exact readValue_of_scalar rfl (by decide) (by decide) limit room _
  | bool false => exact readValue_of_scalar rfl (by decide) (by decide) limit room _
  | number n =>
    obtain ⟨c, cs, htext, hstart⟩ := numberText_starts hproper
    have hread := readScalar_number hproper hrest
    rw [htext, List.cons_append] at hread
    change readValue limit room ((numberText n).toList ++ rest) = _
    rw [htext, List.cons_append, readValue_of_scalar (isGap_of_startsNumber hstart)
      (ne_of_startsNumber hstart rfl) (ne_of_startsNumber hstart rfl), hread]
  | string s => exact readsBack_string limit room s rest hrest
  | array items =>
    rw [depth] at hdepth
    obtain ⟨room, rfl⟩ := Nat.exists_eq_add_one.mpr (Nat.zero_lt_of_lt hdepth)
    have hreads : ∀ v ∈ items, ReadsBack (readValue limit room) chars v := by
      intro v hv
      -- for the termination of this proof, which follows the value
      have hsize := List.sizeOf_lt_of_mem hv
      have hnest := depth_le_itemDepth items v hv
      have hshort := length_item_lt hv
      exact readValue_chars limit room v (ProperItems.of_mem hproper v hv) (by omega) (by omega)
    have hbegins : ∀ v ∈ items, Begins chars v := fun v hv =>
      chars_begins (ProperItems.of_mem hproper v hv)
    rw [chars_array, List.cons_append, List.append_assoc, List.singleton_append, readValue,
      skipGap_of_not_gap rfl]
    simp only [readItems_chars hbegins hreads hlength]
  | object members =>
    obtain ⟨hincreasing, hmembers⟩ := hproper
    rw [depth] at hdepth
    obtain ⟨room, rfl⟩ := Nat.exists_eq_add_one.mpr (Nat.zero_lt_of_lt hdepth)
    have hreads : ∀ m ∈ members, ReadsBack (readValue limit room) chars m.2 := by
      intro m hm
      have hsize := sizeOf_member_lt hm
      have hnest := depth_le_memberDepth members m hm
      have hshort := length_member_lt hm
      exact readValue_chars limit room m.2 (hmembers.of_mem m hm) (by omega) (by omega)
    rw [chars_object, List.cons_append, List.append_assoc, List.singleton_append, readValue,
      skipGap_of_not_gap rfl]
    simp only [readMembers_chars hreads hlength, ofMembers,
      Sorted.ofList_of_increasing hincreasing]
termination_by v
decreasing_by
  · rw [array.sizeOf_spec]
    omega
  · rw [object.sizeOf_spec]
    omega

/-- The members of an object are read back, in the order of the text. -/
theorem readMap_chars {limit room : Nat} {members : List (String × Json)}
    (hproper : (object members).Proper) (hdepth : (object members).depth ≤ room)
    (hlength : (object members).chars.length ≤ limit) :
    readMap limit (readValue limit) room ((object members).chars ++ rest) =
      .ok (members, rest) := by
  rw [depth] at hdepth
  obtain ⟨room, rfl⟩ := Nat.exists_eq_add_one.mpr (Nat.zero_lt_of_lt hdepth)
  have hreads : ∀ m ∈ members, ReadsBack (readValue limit room) chars m.2 := by
    intro m hm
    have hnest := depth_le_memberDepth members m hm
    have hshort := length_member_lt hm
    exact readValue_chars limit room m.2 (hproper.2.of_mem m hm) (by omega) (by omega)
  rw [chars_object, List.cons_append, List.append_assoc, List.singleton_append, readMap,
    skipGap_of_not_gap rfl]
  simp only [readMembers_chars hreads hlength]

/-- The text of a proper value is read back as a whole, with nothing behind it. -/
theorem readWhole_chars {v : Json} (hproper : v.Proper) (hdepth : v.depth ≤ maxDepth) :
    readWhole readValue v.chars = .ok v := by
  have hread := readValue_chars (v.chars.length + 1) maxDepth v hproper hdepth (by omega) [] .nil
  rw [List.append_nil] at hread
  rw [readWhole, hread]
  rfl

theorem read_text {v : Json} (hproper : v.Proper) (hdepth : v.depth ≤ maxDepth) :
    read v.text = .ok v := by
  rw [read, text, String.toList_ofList, readWhole_chars hproper hdepth]

/-! ## Records -/

section Records

variable {σ : Type} {r : Record σ} {f : Field σ} {limit room fuel : Nat} {first : Bool}
  {given : σ} {set : σ → σ} {name : String} {cs more : List Char}

/-- A member that is a field not given yet is read and stored. -/
theorem readFields_member (hname : nextName first cs = .ok (some name, ':' :: more))
    (hfield : r.fields.find? (fun f => f.name = name) = some f) (hnew : f.given given = false)
    (hread : f.read room more = .ok (set, rest)) :
    r.readFields limit room (fuel + 1) first given cs =
      r.readFields limit room fuel false (set given) rest := by
  simp only [Record.readFields, hname, hfield, hnew, Bool.false_eq_true, if_false, readColon_colon,
    hread]

/-- The record ends with its object if no required field is missing. -/
theorem readFields_end (hfull : r.fields.find? (fun f => f.required && !f.given given) = none) :
    r.readFields limit room (fuel + 1) first given ('\x7d' :: rest) = .ok (given, rest) := by
  simp only [Record.readFields, nextName_end, hfull]

theorem Field.of_read {α : Type} {required : Bool} {isGiven : σ → Bool} {value : Reader α}
    {store : α → σ → σ} {v : α} (h : value room cs = .ok (v, rest)) :
    (Field.of name required isGiven value store).read room cs = .ok (store v, rest) := by
  simp only [Field.of, h]

end Records

theorem readText_stringChars (room : Nat) (s : String) :
    readText room (stringChars s ++ rest) = .ok (s, rest) := by
  rw [stringChars_append, readText, skipGap_of_not_gap rfl]
  exact readString_stringChars s rest

end Json

end HomeAgents
