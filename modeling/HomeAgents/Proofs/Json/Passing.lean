import HomeAgents.Proofs.Json.Recognition

/-!
# Well-formed values are passed over

The walk over a value nobody asked for takes a text exactly if it is well-formed. The walk keeps its
open brackets on a stack, so what it still has to find is told by the stack: the rest of the entries
of each bracket, and the bracket that closes it.
-/

namespace HomeAgents.Json

variable {cs rest text gap body used : List Char} {open_ : Bracket} {outer stack : List Bracket}
  {fuel : Nat} {first afterValue : Bool} {us : List Unit}

/-- An item of a well-formed array, or a member of a well-formed object. -/
def Bracket.Entry : Bracket → List Char → Unit → Prop
  | list, text, _ => WellFormed text
  | object, text, _ => Member loose.name (fun text _ => WellFormed text) text ((), ())

/-! ## Well-formed values -/

/-- Texts that each have a bound on the depth of their brackets have one in common. -/
theorem Listed.common {α : Type} {P : Nat → List Char → α → Prop} {vs : List α}
    (hP : ∀ depth more text v, P depth text v → P (depth + more) text v)
    (h : Listed (fun text v => ∃ depth, P depth text v) first body vs) :
    ∃ depth, Listed (P depth) first body vs := by
  induction h with
  | done hgap => exact ⟨0, .done hgap⟩
  | item hlead hitem hmore ih =>
    obtain ⟨depth, hitem⟩ := hitem
    obtain ⟨depth', hmore⟩ := ih
    have hmore' := hmore.imp fun text v => hP depth' depth text v
    rw [Nat.add_comm] at hmore'
    exact ⟨depth + depth', .item hlead (hP depth depth' _ _ hitem) hmore'⟩

theorem wellFormed_brackets (h : Listed open_.Entry true body us) :
    WellFormed (open_.left :: (body ++ [open_.right])) := by
  cases open_ with
  | list =>
    have hitems := h.map (f := id) (Q := fun text v => ∃ depth, loose.Spells depth text v)
      fun _ _ hitem => hitem
    obtain ⟨depth, hlisted⟩ := hitems.common fun _ more _ _ hitem => hitem.deeper more
    exact ⟨depth + 1, .inr (.inl ⟨_, ⟨body, rfl, hlisted⟩, rfl⟩)⟩
  | object =>
    have hmember (text : List Char) (u : Unit) (hm : Bracket.object.Entry text u) :
        ∃ depth, Member loose.name (loose.Spells depth) text ((), ()) := by
      cases hm with
      | mk hname hgap hgap' hvalue =>
        obtain ⟨depth, hvalue⟩ := hvalue
        exact ⟨depth, .mk hname hgap hgap' hvalue⟩
    obtain ⟨depth, hlisted⟩ := (h.map hmember).common fun depth more _ m hm =>
      hm.map (g := id) (f := id) (fun _ _ => id) fun _ _ hvalue => hvalue.deeper more
    exact ⟨depth + 1, .inr (.inr ⟨_, ⟨body, rfl, hlisted⟩, rfl⟩)⟩

theorem LooseScalar.wellFormed (h : LooseScalar text) : WellFormed text :=
  ⟨0, h⟩

theorem WellFormed.begun (h : WellFormed text) : Begun text := by
  obtain ⟨depth, h⟩ := h
  exact Dialect.Spells.begun h fun _ _ => id

theorem entry_begins {u : Unit} (h : open_.Entry text u) :
    ∃ c cs, text = c :: cs ∧ isGap c = false ∧ c ≠ open_.right := by
  cases open_ with
  | list => exact WellFormed.begun h
  | object =>
    cases h with
    | mk => exact ⟨'"', _, rfl, by decide⟩

/-! ## Names -/

theorem skipName_name {word gap' : List Char} (hgap : Gap gap) (hword : Loose word)
    (hgap' : Gap gap') (rest : List Char) :
    skipName (gap ++ '"' :: (word ++ '"' :: (gap' ++ ':' :: rest))) = .ok rest := by
  have hquote : skipGap (gap ++ '"' :: (word ++ '"' :: (gap' ++ ':' :: rest))) =
      '"' :: (word ++ '"' :: (gap' ++ ':' :: rest)) := skipGap_append hgap rfl
  have hskip : skipString (word ++ '"' :: (gap' ++ ':' :: rest)) = .ok (gap' ++ ':' :: rest) :=
    skipString_eq_ok.mpr ⟨word, rfl, hword⟩
  have hcolon : skipGap (gap' ++ ':' :: rest) = ':' :: rest := skipGap_append hgap' rfl
  simp [skipName, hquote, hskip, hcolon]

theorem skipName_ok (h : skipName cs = .ok rest) :
    ∃ gap word gap', cs = gap ++ '"' :: (word ++ '"' :: (gap' ++ ':' :: rest)) ∧ Gap gap ∧
      Loose word ∧ Gap gap' := by
  unfold skipName at h
  split at h
  case h_1 => cases h
  case h_2 hskip =>
    obtain ⟨gap, hgap, rfl⟩ := gap_of_skipGap hskip
    split at h
    case isTrue => cases h
    case isFalse hquote =>
      obtain rfl := not_not.mp hquote
      split at h
      case h_1 => cases h
      case h_2 hstring =>
        obtain ⟨word, rfl, hword⟩ := skipString_eq_ok.mp hstring
        obtain ⟨gap', hgap', rfl⟩ := readColon_ok h
        exact ⟨gap, word, gap', rfl, hgap, hword, hgap'⟩

/-! ## What is passed over is well-formed -/

/-- A text that goes on with the entries of the open brackets and closes them all; `afterValue` says
whether a value stands before it. -/
def Shuts : Bool → List Bracket → List Char → Prop
  | _, [], text => text = []
  | afterValue, open_ :: outer, text =>
    ∃ body us more, Listed open_.Entry (!afterValue) body us ∧
      text = body ++ open_.right :: more ∧ Shuts true outer more

theorem Shuts.close (hgap : Gap gap) (h : Shuts true outer text) :
    Shuts afterValue (open_ :: outer) (gap ++ open_.right :: text) :=
  ⟨gap, [], text, .done hgap, rfl, h⟩

theorem Shuts.item {lead : List Char} {u : Unit} (hlead : Lead (!afterValue) lead)
    (hitem : open_.Entry text u) (h : Shuts true (open_ :: outer) used) :
    Shuts afterValue (open_ :: outer) (lead ++ (text ++ used)) := by
  obtain ⟨body, us, more, hlisted, rfl, hmore⟩ := h
  refine ⟨lead ++ (text ++ body), u :: us, more, .item hlead hitem hlisted, ?_, hmore⟩
  simp only [List.append_assoc]

/-- A walk that succeeds has passed over what its stage and its stack demand. -/
def Passed (stack : List Bracket) (cs rest : List Char) : SkipStage → Prop
  | .value => ∃ gap text used, Gap gap ∧ WellFormed text ∧ Shuts true stack used ∧
      cs = gap ++ (text ++ (used ++ rest))
  | .inside afterValue => ∃ used, Shuts afterValue stack used ∧ cs = used ++ rest

theorem enter_ok (hskip : ∀ {stack : List Bracket} {cs : List Char},
      skipFrom fuel .value stack cs = .ok rest → Passed stack cs rest .value)
    (h : skipFrom.enter fuel open_ outer cs = .ok rest) :
    ∃ gap text used, Gap gap ∧ open_.Entry text () ∧ Shuts true (open_ :: outer) used ∧
      cs = gap ++ (text ++ (used ++ rest)) := by
  unfold skipFrom.enter at h
  split at h
  case h_1 => exact hskip h
  case h_2 =>
    split at h
    case h_1 => cases h
    case h_2 hname =>
      obtain ⟨gap, word, gap', rfl, hgap, hword, hgap'⟩ := skipName_ok hname
      obtain ⟨gap'', text, used, hgap'', htext, hused, rfl⟩ := hskip h
      refine ⟨gap, _, used, hgap, .mk hword hgap' hgap'' htext, hused, ?_⟩
      simp only [List.append_assoc, List.cons_append]

theorem Passed.token {ds word : List Char} (hcs : cs = gap ++ (word ++ ds)) (hgap : Gap gap)
    (hword : WellFormed word) (h : Passed stack ds rest (.inside true)) :
    Passed stack cs rest .value := by
  obtain ⟨used, hused, rfl⟩ := h
  exact ⟨gap, word, used, hgap, hword, hused, hcs⟩

theorem Passed.bracket {ds : List Char} (hcs : cs = gap ++ open_.left :: ds) (hgap : Gap gap)
    (h : Passed (open_ :: stack) ds rest (.inside false)) : Passed stack cs rest .value := by
  obtain ⟨used, ⟨body, us, more, hlisted, rfl, hmore⟩, rfl⟩ := h
  refine ⟨gap, _, more, hgap, wellFormed_brackets hlisted, hmore, ?_⟩
  rw [hcs]
  simp only [List.append_assoc, List.cons_append, List.nil_append]

theorem PassesToken.scalar {ds : List Char} (h : PassesToken cs ds) :
    ∃ word, LooseScalar word ∧ cs = word ++ ds := by
  cases h with
  | null hword => exact ⟨_, .null, by rw [readWord_eq_ok.mp hword]; rfl⟩
  | true hword => exact ⟨_, .true, by rw [readWord_eq_ok.mp hword]; rfl⟩
  | false hword => exact ⟨_, .false, by rw [readWord_eq_ok.mp hword]; rfl⟩
  | string hstring =>
    obtain ⟨word, rfl, hword⟩ := skipString_eq_ok.mp hstring
    refine ⟨_, .string hword, ?_⟩
    simp only [List.append_assoc, List.cons_append, List.nil_append]
  | negative hnumber =>
    obtain ⟨n, hn, rfl⟩ := numeral_of_skipUnsigned Bool.true hnumber
    refine ⟨_, .number n, ?_⟩
    rw [Numeral.chars, Numeral.sign, hn]
    rfl
  | number hnumber =>
    obtain ⟨n, hn, htail⟩ := numeral_of_skipUnsigned Bool.false hnumber
    refine ⟨_, .number n, ?_⟩
    rw [htail, Numeral.chars, Numeral.sign, hn]
    rfl

theorem skipFrom_ok {stage : SkipStage} (h : skipFrom fuel stage stack cs = .ok rest) :
    Passed stack cs rest stage := by
  -- entering a bracket hands its fuel on, so the induction is on the fuel of the walk alone
  induction fuel generalizing stage stack cs with
  | zero => exact absurd h skipFrom_zero_ne_ok
  | succ fuel ih =>
    obtain ⟨gap, hgap, hcs⟩ := gap_of_skipGap (rfl : skipGap cs = _)
    match stage, stack with
    | .inside _, [] => exact ⟨[], rfl, skipFrom_inside_nil h⟩
    | .inside afterValue, open_ :: outer =>
      cases skipFrom_inside_step h with
      | comma hskip hmore =>
        obtain ⟨gap', text, used, hgap', htext, hused, rfl⟩ := enter_ok ih hmore
        refine ⟨_, hused.item (.later hgap hgap') htext, ?_⟩
        rw [hcs, hskip]
        simp only [List.append_assoc, List.cons_append]
      | close hskip hmore =>
        obtain ⟨used, hused, rfl⟩ := ih hmore
        refine ⟨_, hused.close hgap, ?_⟩
        rw [hcs, hskip]
        simp only [List.append_assoc, List.cons_append]
      | first hmore =>
        obtain ⟨gap', text, used, hgap', htext, hused, htail⟩ := enter_ok ih hmore
        refine ⟨_, hused.item (.first (hgap.append hgap')) htext, ?_⟩
        rw [hcs, htail]
        simp only [List.append_assoc]
    | .value, stack =>
      cases skipFrom_value_step h with
      | token hskip hword hmore =>
        obtain ⟨word, hscalar, rfl⟩ := hword.scalar
        rw [hskip] at hcs
        exact (ih hmore).token hcs hgap hscalar.wellFormed
      | bracket open_ hskip hmore =>
        rw [hskip] at hcs
        exact (ih hmore).bracket hcs hgap

theorem skipValue_ok {limit : Nat} (h : skipValue limit cs = .ok rest) :
    ∃ gap text, cs = gap ++ (text ++ rest) ∧ Gap gap ∧ WellFormed text := by
  obtain ⟨gap, text, used, hgap, htext, hused, hcs⟩ := skipFrom_ok h
  obtain rfl := hused
  exact ⟨gap, text, hcs, hgap, htext⟩

/-! ## What is well-formed is passed over -/

/-- The walk passes over a value in so many steps, whatever is open around it. -/
def StepsOver (text : List Char) (steps : Nat) : Prop :=
  ∀ {fuel : Nat} {stack : List Bracket} {gap rest : List Char}, Gap gap → Stops rest →
    skipFrom (fuel + steps) .value stack (gap ++ (text ++ rest)) =
      skipFrom fuel (.inside true) stack rest

/-- The same for an entry of an open bracket. -/
def EntersOver (open_ : Bracket) (text : List Char) (steps : Nat) : Prop :=
  ∀ {fuel : Nat} {outer : List Bracket} {gap rest : List Char}, Gap gap → Stops rest →
    skipFrom.enter (fuel + steps) open_ outer (gap ++ (text ++ rest)) =
      skipFrom fuel (.inside true) (open_ :: outer) rest

theorem skipFrom_value {c : Char} (hgap : Gap gap) (hc : isGap c = false) :
    skipFrom (fuel + 1) .value stack (gap ++ c :: cs) =
      skipFrom (fuel + 1) .value stack (c :: cs) := by
  conv_lhs => unfold skipFrom
  conv_rhs => unfold skipFrom
  rw [skipGap_append hgap hc, skipGap_of_not_gap hc]

theorem skipFrom_close (hgap : Gap gap) :
    skipFrom (fuel + 1) (.inside afterValue) (open_ :: outer) (gap ++ open_.right :: rest) =
      skipFrom fuel (.inside true) outer rest := by
  cases open_ with
  | list =>
    have hskip : skipGap (gap ++ ']' :: rest) = ']' :: rest := skipGap_append hgap rfl
    simp [skipFrom, Bracket.right, hskip]
  | object =>
    have hskip : skipGap (gap ++ '\x7d' :: rest) = '\x7d' :: rest := skipGap_append hgap rfl
    simp [skipFrom, Bracket.right, hskip]

theorem skipFrom_comma (hgap : Gap gap) :
    skipFrom (fuel + 1) (.inside true) (open_ :: outer) (gap ++ ',' :: rest) =
      skipFrom.enter fuel open_ outer rest := by
  have hskip : skipGap (gap ++ ',' :: rest) = ',' :: rest := skipGap_append hgap rfl
  conv_lhs => unfold skipFrom
  rw [hskip]
  simp

theorem skipFrom_first {u : Unit} (hgap : Gap gap) (hentry : open_.Entry text u) :
    skipFrom (fuel + 1) (.inside false) (open_ :: outer) (gap ++ (text ++ rest)) =
      skipFrom.enter fuel open_ outer (text ++ rest) := by
  obtain ⟨c, cs, rfl, hc, hright⟩ := entry_begins hentry
  rw [List.cons_append]
  conv_lhs => unfold skipFrom
  rw [skipGap_append hgap hc]
  cases open_ with
  | list =>
    have hend : c ≠ ']' := hright
    simp [hend]
  | object =>
    have hend : c ≠ '\x7d' := hright
    simp [hend]

theorem stepsOver_number (n : Numeral) : StepsOver n.chars 1 := by
  intro fuel stack gap rest hgap hrest
  have hnumber := skipUnsigned_body n (hrest.ends n)
  cases hn : n.negative with
  | true =>
    have hchars : n.chars = '-' :: n.body := by rw [Numeral.chars, Numeral.sign, hn]; rfl
    have hsign : isGap '-' = false := rfl
    rw [hchars, List.cons_append, skipFrom_value hgap hsign]
    simp [skipFrom, skipGap_of_not_gap hsign, hnumber]
  | false =>
    have hchars : n.chars = n.body := by rw [Numeral.chars, Numeral.sign, hn]; rfl
    obtain ⟨d, tail, hwhole, hd⟩ := n.whole_spec.1.exists_cons
    obtain ⟨cs, hbody⟩ : ∃ cs, n.body = d :: cs := ⟨_, by rw [Numeral.body, hwhole]; rfl⟩
    have hgap' : isGap d = false := isGap_of_startsNumber (startsNumber_of_digit hd)
    rw [hbody, List.cons_append] at hnumber
    rw [hchars, hbody, List.cons_append, skipFrom_value hgap hgap']
    conv_lhs => unfold skipFrom
    rw [skipGap_of_not_gap hgap']
    dsimp only
    split
    case h_1 hcs => cases hcs
    case h_9 hcs =>
      cases hcs
      rw [if_pos hd, hnumber]
    all_goals
      rename_i hcs
      cases hcs
      cases hd

theorem stepsOver_token {c : Char} {tail : List Char} (hc : isGap c = false)
    (h : ∀ (fuel : Nat) (stack : List Bracket) (rest : List Char),
      skipFrom (fuel + 1) .value stack (c :: (tail ++ rest)) =
        skipFrom fuel (.inside true) stack rest) : StepsOver (c :: tail) 1 := by
  intro fuel stack gap rest hgap _
  rw [List.cons_append, skipFrom_value hgap hc]
  exact h fuel stack rest

theorem stepsOver_scalar (h : LooseScalar text) : StepsOver text 1 := by
  cases h with
  | null => exact stepsOver_token rfl fun _ _ _ => by simp [skipFrom, skipGap, isGap, readWord]
  | true => exact stepsOver_token rfl fun _ _ _ => by simp [skipFrom, skipGap, isGap, readWord]
  | false => exact stepsOver_token rfl fun _ _ _ => by simp [skipFrom, skipGap, isGap, readWord]
  | @string word hword =>
    refine stepsOver_token rfl fun fuel stack rest => ?_
    have hstring : skipString (word ++ '"' :: rest) = .ok rest :=
      skipString_eq_ok.mpr ⟨word, rfl, hword⟩
    simp [skipFrom, skipGap, isGap, hstring]
  | number n => exact stepsOver_number n

/-- An entry that the walk passes over in less than two steps for each of its characters. -/
def Passable (open_ : Bracket) (text : List Char) : Prop :=
  open_.Entry text () ∧ ∃ steps, steps < 2 * text.length ∧ EntersOver open_ text steps

theorem skipFrom_listed {α : Type} {P : List Char → α → Prop} {vs : List α}
    (h : Listed P first body vs) (hP : ∀ text v, P text v → Passable open_ text) :
    ∃ steps, steps ≤ 2 * body.length + 1 ∧ ∀ (fuel : Nat) (outer : List Bracket) (rest : List Char),
      skipFrom (fuel + steps) (.inside (!first)) (open_ :: outer) (body ++ open_.right :: rest) =
        skipFrom fuel (.inside true) outer rest := by
  induction h with
  | done hgap => exact ⟨1, by omega, fun fuel outer rest => skipFrom_close hgap⟩
  | @item first lead text more v vs hlead hitem hmore ih =>
    obtain ⟨hentry, steps, hsteps, hover⟩ := hP text v hitem
    obtain ⟨steps', hsteps', hwalk⟩ := ih
    refine ⟨steps' + steps + 1, by simp only [List.length_append]; omega, fun fuel outer rest => ?_⟩
    have hstops : Stops (more ++ open_.right :: rest) :=
      hmore.stops (by cases open_ <;> simp [Bracket.right]) rest
    have henter {gap : List Char} (hgap : Gap gap) :
        skipFrom.enter (fuel + steps' + steps) open_ outer
            (gap ++ (text ++ (more ++ open_.right :: rest))) =
          skipFrom fuel (.inside true) outer rest := by
      rw [hover hgap hstops]
      exact hwalk fuel outer rest
    simp only [List.append_assoc]
    rw [← Nat.add_assoc, ← Nat.add_assoc]
    cases hlead with
    | first hgap => exact (skipFrom_first hgap hentry).trans (henter .nil)
    | later hgap hgap' =>
      rw [List.append_assoc, List.cons_append]
      exact (skipFrom_comma hgap).trans (henter hgap')

theorem exists_stepsOver_brackets {α : Type} {P : List Char → α → Prop} {vs : List α}
    (open_ : Bracket) (h : Listed P true body vs) (hP : ∀ text v, P text v → Passable open_ text) :
    ∃ steps, steps < 2 * (open_.left :: (body ++ [open_.right])).length ∧
      StepsOver (open_.left :: (body ++ [open_.right])) steps := by
  obtain ⟨steps, hsteps, hwalk⟩ := skipFrom_listed h hP
  refine ⟨steps + 1, by simp only [List.length_cons, List.length_append]; omega, ?_⟩
  intro fuel stack gap rest hgap _
  have hopen : isGap open_.left = false := by cases open_ <;> rfl
  rw [← hwalk fuel stack rest, ← Nat.add_assoc, List.cons_append, skipFrom_value hgap hopen]
  cases open_ <;> simp [skipFrom, skipGap, isGap, Bracket.left]

/-- Two steps for each character are more than enough to pass over a value. -/
theorem WellFormed.exists_stepsOver (h : WellFormed text) :
    ∃ steps, steps < 2 * text.length ∧ StepsOver text steps := by
  have hscalar {text : List Char} (h : LooseScalar text) :
      ∃ steps, steps < 2 * text.length ∧ StepsOver text steps := by
    obtain ⟨c, cs, rfl, -⟩ := looseScalar_begins h
    exact ⟨1, by simp only [List.length_cons]; omega, stepsOver_scalar h⟩
  -- the walk has no depth of its own; the induction follows the nesting of the value
  obtain ⟨depth, h⟩ := h
  induction depth generalizing text with
  | zero => exact hscalar h
  | succ depth ih =>
    rcases h with h | ⟨us, ⟨body, rfl, hitems⟩, -⟩ | ⟨ms, ⟨body, rfl, hmembers⟩, -⟩
    · exact hscalar h
    · refine exists_stepsOver_brackets .list hitems fun text _ hitem => ?_
      obtain ⟨steps, hsteps, hover⟩ := ih hitem
      refine ⟨⟨depth, hitem⟩, steps, hsteps, ?_⟩
      intro fuel outer gap rest hgap hrest
      rw [skipFrom.enter]
      exact hover hgap hrest
    · refine exists_stepsOver_brackets .object hmembers fun _ _ hmember => ?_
      obtain ⟨hword, hgap, hgap', hvalue⟩ := hmember
      rename_i word gap gap' text _ _
      refine ⟨.mk hword hgap hgap' ⟨depth, hvalue⟩, ?_⟩
      obtain ⟨steps, hsteps, hover⟩ := ih hvalue
      refine ⟨steps, by simp only [List.length_cons, List.length_append]; omega, ?_⟩
      intro fuel outer lead rest hlead hrest
      simp only [List.append_assoc, List.cons_append]
      rw [skipFrom.enter, skipName_name hlead hword hgap]
      exact hover hgap' hrest

/-- A value behind blanks is passed over if it is well-formed. -/
theorem skipValue_wellFormed {limit : Nat} (hgap : Gap gap) (h : WellFormed text)
    (hrest : Stops rest) (hlimit : text.length ≤ limit) :
    skipValue limit (gap ++ (text ++ rest)) = .ok rest := by
  obtain ⟨steps, hsteps, hover⟩ := h.exists_stepsOver
  obtain ⟨fuel, hfuel⟩ : ∃ fuel, 2 * limit + 2 = fuel + 1 + steps :=
    ⟨2 * limit + 1 - steps, by omega⟩
  rw [skipValue, hfuel, hover hgap hrest]
  simp [skipFrom]

end HomeAgents.Json
