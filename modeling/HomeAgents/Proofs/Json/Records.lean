import HomeAgents.Proofs.Json.Passing

/-!
# Which texts records are read from

A record is read from an object whose members give each field at most once and every required field,
and from an array whose items give the fields in their order, of which only those that are not
required may be missing at the end. Members with other names only have to be well-formed.
-/

namespace HomeAgents.Json

/-- A well-formed text, taken as it stands. -/
def Verbatim (text same : List Char) : Prop :=
  text = same ∧ WellFormed text

section Grammar

variable {σ : Type} (L : String → List Char → (σ → σ) → Prop)

/-- Members that complete a record: `L` says which texts a field takes and what each of them does to
the record. -/
inductive Fills (fields : List (Field σ)) : σ → List (String × List Char) → σ → Prop
  | done {given : σ} (h : ∀ f ∈ fields, f.required = true → f.given given = true) :
      Fills fields given [] given
  | field {given out : σ} {name : String} {text : List Char} {entries : List (String × List Char)}
      {f : Field σ} {set : σ → σ} (hfind : fields.find? (fun f => f.name = name) = some f)
      (hnew : f.given given = false) (htext : L name text set)
      (more : Fills fields (set given) entries out) :
      Fills fields given ((name, text) :: entries) out
  | other {given out : σ} {name : String} {text : List Char} {entries : List (String × List Char)}
      (hfind : fields.find? (fun f => f.name = name) = none)
      (more : Fills fields given entries out) : Fills fields given ((name, text) :: entries) out

/-- Items that complete a record, one for each of the first fields. -/
inductive Lines : List (Field σ) → σ → List (List Char) → σ → Prop
  | done {fields : List (Field σ)} {given : σ} (h : ∀ f ∈ fields, f.required = false) :
      Lines fields given [] given
  | item {f : Field σ} {fields : List (Field σ)} {given out : σ} {text : List Char}
      {texts : List (List Char)} {set : σ → σ} (htext : L f.name text set)
      (more : Lines fields (set given) texts out) : Lines (f :: fields) given (text :: texts) out

/-- The text of a record, as an object or as an array. -/
def Record.Text (r : Record σ) (empty : σ) (text : List Char) (out : σ) : Prop :=
  (∃ entries, Braced exact.name Verbatim text entries ∧ Fills L r.fields empty entries out) ∨
    ∃ texts, Bracketed Verbatim text texts ∧ Lines L r.fields empty texts out

/-- The readers of the fields read what the fields take. -/
structure Record.Reads (r : Record σ) (limit room : Nat) : Prop where
  field : ∀ f ∈ r.fields, Recognises limit (f.read room) (L f.name)
  wellFormed : ∀ f ∈ r.fields, ∀ {text : List Char} {set : σ → σ}, L f.name text set →
    WellFormed text

end Grammar

variable {σ : Type} {L : String → List Char → (σ → σ) → Prop} {r : Record σ} {limit room fuel : Nat}
  {first : Bool} {given out empty : σ} {body cs rest : List Char}

/-! ## Objects -/

theorem find?_field {fields : List (Field σ)} {name : String} {f : Field σ}
    (h : fields.find? (fun f => f.name = name) = some f) : f ∈ fields ∧ f.name = name :=
  ⟨List.mem_of_find?_eq_some h, by simpa using List.find?_some h⟩

theorem missing_eq_none {fields : List (Field σ)} :
    fields.find? (fun f => f.required && !f.given given) = none ↔
      ∀ f ∈ fields, f.required = true → f.given given = true := by
  rw [List.find?_eq_none]
  refine forall₂_congr fun f _ => ?_
  cases f.required <;> cases f.given given <;> simp

theorem readFields_listed {entries : List (String × List Char)} (hr : r.Reads L limit room)
    (h : Listed (Member exact.name Verbatim) first body entries)
    (hfills : Fills L r.fields given entries out) (hfuel : entries.length < fuel)
    (hlimit : body.length ≤ limit) (rest : List Char) :
    r.readFields limit room fuel first given (body ++ '\x7d' :: rest) = .ok (out, rest) := by
  obtain ⟨fuel, rfl⟩ := Nat.exists_eq_add_one_of_ne_zero (Nat.ne_of_gt (Nat.zero_lt_of_lt hfuel))
  induction h generalizing fuel given with
  | done hgap =>
    cases hfills with
    | done h => simp [Record.readFields, nextName_close hgap, missing_eq_none.mpr h]
  | @item first lead text more m entries hlead hitem hmore ih =>
    obtain ⟨hname, hgap, hgap', rfl, hvalue⟩ := hitem
    rename_i word gap gap' text name
    simp only [List.length_cons, List.length_append] at hfuel hlimit
    have hstops : Stops (more ++ '\x7d' :: rest) := hmore.stops (.inr rfl) rest
    obtain ⟨fuel, rfl⟩ := Nat.exists_eq_add_one_of_ne_zero (show fuel ≠ 0 by omega)
    simp only [List.append_assoc, List.cons_append]
    rw [Record.readFields, nextName_name hlead hname]
    cases hfills with
    | field hfind hnew htext hfills =>
      obtain ⟨hmem, rfl⟩ := find?_field hfind
      have hread := (hr.field _ hmem).complete hgap' htext hstops (by omega)
      have hrest := ih hfills (by omega) fuel (by omega)
      simp [hfind, hnew, readColon_gap hgap, hread, hrest]
    | other hfind hfills =>
      have hskip : skipValue limit _ = _ := skipValue_wellFormed hgap' hvalue hstops (by omega)
      have hrest := ih hfills (by omega) fuel (by omega)
      simp [hfind, readColon_gap hgap, hskip, hrest]

theorem readFields_ok (hr : r.Reads L limit room)
    (h : r.readFields limit room fuel first given cs = .ok (out, rest)) :
    ∃ body entries, cs = body ++ '\x7d' :: rest ∧
      Listed (Member exact.name Verbatim) first body entries ∧
      Fills L r.fields given entries out := by
  induction fuel generalizing first given cs with
  | zero => cases h
  | succ fuel ih =>
    rw [Record.readFields] at h
    split at h
    case h_1 => cases h
    case h_2 hnext =>
      split at h
      case h_1 => cases h
      case h_2 hmissing =>
        cases h
        obtain ⟨-, gap, hgap, hcs⟩ | ⟨s, lead, word, hname, -⟩ := nextName_ok hnext
        · exact ⟨gap, [], hcs, .done hgap, .done (missing_eq_none.mp hmissing)⟩
        · cases hname
    case h_3 name _ hnext =>
      obtain ⟨hname, -⟩ | ⟨s, lead, word, hname, hlead, hword, hcs⟩ := nextName_ok hnext
      · cases hname
      obtain rfl := Option.some.inj hname
      split at h
      case h_1 f hfind =>
        split at h
        case isTrue => exact absurd h mismatchInObject_ne_ok
        case isFalse hnew =>
          split at h
          case h_1 => cases h
          case h_2 hcolon =>
            obtain ⟨gap, hgap, rfl⟩ := readColon_ok hcolon
            split at h
            case h_1 => cases h
            case h_2 set more hvalue =>
              obtain ⟨hmem, rfl⟩ := find?_field hfind
              obtain ⟨gap', text, rfl, hgap', htext⟩ := (hr.field f hmem).sound hvalue
              obtain ⟨body, entries, rfl, hlisted, hfills⟩ := ih h
              have hmember : Member exact.name Verbatim _ (f.name, text) :=
                .mk hword hgap hgap' ⟨rfl, hr.wellFormed f hmem htext⟩
              refine ⟨_, _ :: entries, ?_, .item hlead hmember hlisted,
                .field hfind (eq_false_of_ne_true hnew) htext hfills⟩
              rw [hcs]
              simp only [List.append_assoc, List.cons_append]
      case h_2 hfind =>
        split at h
        case h_1 => cases h
        case h_2 hcolon =>
          obtain ⟨gap, hgap, rfl⟩ := readColon_ok hcolon
          split at h
          case h_1 => cases h
          case h_2 more hvalue =>
            obtain ⟨gap', text, rfl, hgap', htext⟩ := skipValue_ok hvalue
            obtain ⟨body, entries, rfl, hlisted, hfills⟩ := ih h
            have hmember : Member exact.name Verbatim _ (name, text) :=
              .mk hword hgap hgap' ⟨rfl, htext⟩
            refine ⟨_, _ :: entries, ?_, .item hlead hmember hlisted, .other hfind hfills⟩
            rw [hcs]
            simp only [List.append_assoc, List.cons_append]

/-! ## Arrays -/

theorem endList_gap (hgap : Gap body) (rest : List Char) :
    endList (body ++ ']' :: rest) = .ok rest := by
  have hskip : skipGap (body ++ ']' :: rest) = ']' :: rest := skipGap_append hgap rfl
  simp [endList, hskip]

theorem endList_ok (h : endList cs = .ok rest) : ∃ gap, Gap gap ∧ cs = gap ++ ']' :: rest := by
  unfold endList at h
  split at h
  case h_2 hskip =>
    cases h
    exact gap_of_skipGap hskip
  case h_3 => split at h <;> cases h
  all_goals cases h

theorem optional_iff {fields : List (Field σ)} :
    fields.findIdx? (·.required) = none ↔ ∀ f ∈ fields, f.required = false := by
  simp

theorem readItems_lines {fields : List (Field σ)} {texts : List (List Char)} (index : Nat)
    (hr : r.Reads L limit room) (hfields : ∀ f ∈ fields, f ∈ r.fields)
    (hlisted : Listed Verbatim (index = 0) body texts) (hlines : Lines L fields given texts out)
    (hlimit : body.length ≤ limit) (rest : List Char) :
    r.readItems room fields index given (body ++ ']' :: rest) = .ok (out, rest) := by
  induction hlines generalizing index body with
  | @done fields given h =>
    cases hlisted with
    | done hgap =>
      cases fields with
      | nil => simp [Record.readItems, endList_gap hgap]
      | cons f fields =>
        simp only [Record.readItems, nextItem_end hgap, optional_iff.mpr h]
  | @item f fields given out text texts set htext hmore ih =>
    cases hlisted with
    | @item _ lead text more _ _ hlead hitem hlisted =>
      obtain ⟨rfl, hvalue⟩ := hitem
      simp only [List.length_append] at hlimit
      obtain ⟨hf, hfields⟩ := List.forall_mem_cons.mp hfields
      have hstops : Stops (more ++ ']' :: rest) := hlisted.stops (.inl rfl) rest
      have hread : f.read room (text ++ (more ++ ']' :: rest)) = .ok (set, more ++ ']' :: rest) :=
        (hr.field f hf).complete .nil htext hstops (by omega)
      have hrest : r.readItems room fields (index + 1) (set given) _ = _ :=
        ih (index + 1) hfields hlisted (by omega)
      simp only [List.append_assoc]
      rw [Record.readItems, nextItem_item hlead hvalue.begun]
      simp only [hread, hrest]

theorem readItems_fields_ok {fields : List (Field σ)} {index : Nat} (hr : r.Reads L limit room)
    (hfields : ∀ f ∈ fields, f ∈ r.fields)
    (h : r.readItems room fields index given cs = .ok (out, rest)) :
    ∃ body texts, cs = body ++ ']' :: rest ∧ Listed Verbatim (index = 0) body texts ∧
      Lines L fields given texts out := by
  induction fields generalizing index given cs with
  | nil =>
    rw [Record.readItems] at h
    split at h
    case h_1 => cases h
    case h_2 hend =>
      cases h
      obtain ⟨gap, hgap, hcs⟩ := endList_ok hend
      exact ⟨gap, [], hcs, .done hgap, .done (List.forall_mem_nil _)⟩
  | cons f fields ih =>
    obtain ⟨hf, hfields⟩ := List.forall_mem_cons.mp hfields
    rw [Record.readItems] at h
    split at h
    case h_1 => cases h
    case h_2 hnext =>
      split at h
      case h_1 => cases h
      case h_2 hoptional =>
        cases h
        obtain ⟨gap, hgap, hcs⟩ := nextItem_ok hnext
        exact ⟨gap, [], hcs, .done hgap, .done (optional_iff.mp hoptional)⟩
    case h_3 hnext =>
      obtain ⟨lead, hlead, hcs⟩ := nextItem_ok hnext
      split at h
      case h_1 => cases h
      case h_2 set more hvalue =>
        obtain ⟨gap, text, htail, hgap, htext⟩ := (hr.field f hf).sound hvalue
        obtain ⟨body, texts, rfl, hlisted, hlines⟩ := ih hfields h
        refine ⟨_, text :: texts, ?_, .item (hlead.append hgap)
          ⟨rfl, hr.wellFormed f hf htext⟩ hlisted, .item htext hlines⟩
        rw [hcs, htail]
        simp only [List.append_assoc]

/-! ## Records and whole texts -/

theorem recognises_of {α : Type} {name : String} {required : Bool} {isGiven : σ → Bool}
    {value : Reader α} {store : α → σ → σ} {P : List Char → α → Prop}
    {Q : List Char → (σ → σ) → Prop} (h : Recognises limit (value room) P)
    (hQ : ∀ text set, Q text set ↔ ∃ v, P text v ∧ set = store v) :
    Recognises limit ((Field.of name required isGiven value store).read room) Q := by
  refine ⟨?_, ?_, ?_⟩
  · intro cs set rest hread
    simp only [Field.of] at hread
    split at hread
    case h_1 => cases hread
    case h_2 v _ hvalue =>
      cases hread
      obtain ⟨gap, text, hcs, hgap, hv⟩ := h.sound hvalue
      exact ⟨gap, text, hcs, hgap, (hQ _ _).mpr ⟨v, hv, rfl⟩⟩
  · intro gap text set rest hgap hset hrest hlimit
    obtain ⟨v, hv, rfl⟩ := (hQ _ _).mp hset
    simp only [Field.of, h.complete hgap hv hrest hlimit]
  · intro text set hset
    obtain ⟨v, hv, -⟩ := (hQ _ _).mp hset
    exact h.begun hv

/-- A record is read from its texts and from nothing else. -/
theorem recognises_record (hr : r.Reads L limit room) :
    Recognises limit (r.read limit empty (room + 1)) (r.Text L empty) := by
  refine ⟨?_, ?_, ?_⟩
  · intro cs out rest h
    unfold Record.read at h
    split at h
    case h_1 => cases h
    case h_2 hskip =>
      obtain ⟨body, texts, rfl, hlisted, hlines⟩ :=
        readItems_fields_ok hr (fun _ => id) h
      obtain ⟨gap, hcs, hgap⟩ := enclosed_of_skipGap hskip
      exact ⟨gap, _, hcs, hgap, .inr ⟨texts, ⟨body, rfl, hlisted⟩, hlines⟩⟩
    case h_3 hskip =>
      obtain ⟨body, entries, rfl, hlisted, hfills⟩ := readFields_ok hr h
      obtain ⟨gap, hcs, hgap⟩ := enclosed_of_skipGap hskip
      exact ⟨gap, _, hcs, hgap, .inl ⟨entries, ⟨body, rfl, hlisted⟩, hfills⟩⟩
    case h_4 => exact absurd h refuse_ne_ok
  · rintro gap text out rest hgap (⟨entries, ⟨body, rfl, hlisted⟩, hfills⟩ |
      ⟨texts, ⟨body, rfl, hlisted⟩, hlines⟩) - hlimit
    · simp only [List.length_cons, List.length_append, List.length_nil] at hlimit
      have hfuel : entries.length < limit :=
        Nat.lt_of_le_of_lt (hlisted.length_le member_begun) (by omega)
      have hread := readFields_listed hr hlisted hfills hfuel (by omega) rest
      have hskip : skipGap (gap ++ '\x7b' :: (body ++ '\x7d' :: rest)) =
          '\x7b' :: (body ++ '\x7d' :: rest) := skipGap_append hgap rfl
      simp [Record.read, hskip, hread]
    · simp only [List.length_cons, List.length_append, List.length_nil] at hlimit
      have hread : r.readItems room r.fields 0 empty (body ++ ']' :: rest) = .ok (out, rest) :=
        readItems_lines 0 hr (fun _ => id) hlisted hlines (by omega) rest
      have hskip : skipGap (gap ++ '[' :: (body ++ ']' :: rest)) = '[' :: (body ++ ']' :: rest) :=
        skipGap_append hgap rfl
      simp [Record.read, hskip, hread]
  · rintro text out (⟨entries, ⟨body, rfl, -⟩, -⟩ | ⟨texts, ⟨body, rfl, -⟩, -⟩)
    · exact ⟨'\x7b', _, rfl, by decide⟩
    · exact ⟨'[', _, rfl, by decide⟩

/-- A whole text is read if there is nothing but blanks around what is read. -/
theorem readWhole_eq_ok {α : Type} {value : Nat → Reader α} {P : List Char → α → Prop}
    {text : List Char} {v : α}
    (h : Recognises (text.length + 1) (value (text.length + 1) maxDepth) P) :
    readWhole value text = .ok v ↔
      ∃ gap inner gap', text = gap ++ (inner ++ gap') ∧ Gap gap ∧ Gap gap' ∧ P inner v := by
  constructor
  · intro hread
    unfold readWhole at hread
    split at hread
    case h_1 => cases hread
    case h_2 v rest hvalue =>
      obtain ⟨gap, inner, htext, hgap, hv⟩ := h.sound hvalue
      split at hread
      case h_1 hend =>
        cases hread
        obtain ⟨gap', hgap', rfl⟩ := gap_of_skipGap hend
        rw [List.append_nil] at htext
        exact ⟨gap, inner, gap', htext, hgap, hgap', hv⟩
      case h_2 => cases hread
  · rintro ⟨gap, inner, gap', rfl, hgap, hgap', hv⟩
    have hstops : Stops gap' := fun c hc => .inl (hgap' c (List.mem_of_head? hc))
    have hlimit : inner.length ≤ (gap ++ (inner ++ gap')).length + 1 := by
      simp only [List.length_append]
      omega
    rw [readWhole, h.complete hgap hv hstops hlimit]
    simp only [skipGap_gap hgap']

end HomeAgents.Json
