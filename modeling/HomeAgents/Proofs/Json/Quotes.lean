import HomeAgents.Json.Record
import HomeAgents.Proofs.Json.Steps
import Mathlib.Data.List.TakeWhile

/-!
# What is read ends outside strings

A text can be followed from its beginning with nothing in mind but whether the next character stands
inside a string. Every reader that starts outside a string and succeeds stops outside one. So a text
that breaks off inside a string is never read.
-/

namespace HomeAgents.Json

/-- Where the next character of a text stands: outside strings, inside one, or behind a backslash
inside one. -/
inductive Side where
  | outside
  | inside
  | escaped
deriving DecidableEq, Repr

/-- The side behind a character. -/
def Side.step : Side → Char → Side
  | outside, c => if c = '"' then inside else outside
  | inside, c => if c = '"' then outside else if c = '\\' then escaped else inside
  | escaped, _ => inside

/-- The side behind some characters. -/
def Side.after (s : Side) (cs : List Char) : Side :=
  cs.foldl Side.step s

/-- What stands before `rest` leads from a side to the outside of strings. -/
def Leads (s : Side) (cs rest : List Char) : Prop :=
  ∃ used, cs = used ++ rest ∧ s.after used = .outside

section Sides

variable {s s' : Side} {c : Char} {cs cs' rest used : List Char}

@[simp]
theorem Side.after_nil (s : Side) : s.after [] = s := rfl

@[simp]
theorem Side.after_cons (s : Side) (c : Char) (cs : List Char) :
    s.after (c :: cs) = (s.step c).after cs := rfl

theorem Side.after_append (s : Side) (cs cs' : List Char) :
    s.after (cs ++ cs') = (s.after cs).after cs' :=
  List.foldl_append

theorem Side.step_outside (h : c ≠ '"') : Side.outside.step c = .outside := if_neg h

theorem Side.step_inside (hquote : c ≠ '"') (hbackslash : c ≠ '\\') :
    Side.inside.step c = .inside := by
  rw [Side.step, if_neg hquote, if_neg hbackslash]

/-- Without a quote nothing leaves the outside. -/
theorem Side.after_outside (h : '"' ∉ cs) : Side.outside.after cs = .outside := by
  induction cs with
  | nil => rfl
  | cons c cs ih =>
    obtain ⟨hc, hcs⟩ := not_or.mp (mt List.mem_cons.mpr h)
    rw [Side.after_cons, Side.step_outside (Ne.symm hc), ih hcs]

theorem Leads.refl (cs : List Char) : Leads .outside cs cs :=
  ⟨[], rfl, rfl⟩

theorem Leads.trans (h : Leads s cs cs') (h' : Leads .outside cs' rest) : Leads s cs rest := by
  obtain ⟨used, rfl, hused⟩ := h
  obtain ⟨used', rfl, hused'⟩ := h'
  exact ⟨used ++ used', (List.append_assoc ..).symm, by rw [Side.after_append, hused, hused']⟩

theorem Leads.cons (h : Leads s' cs rest) (hstep : s.step c = s') : Leads s (c :: cs) rest := by
  obtain ⟨used, rfl, hused⟩ := h
  exact ⟨c :: used, rfl, by rw [Side.after_cons, hstep, hused]⟩

/-- A character outside strings that is no quote is passed over. -/
theorem Leads.plain (h : Leads .outside cs rest) (hc : c ≠ '"') : Leads .outside (c :: cs) rest :=
  h.cons (Side.step_outside hc)

theorem Leads.one (hc : c ≠ '"') : Leads .outside (c :: rest) rest :=
  (Leads.refl rest).plain hc

theorem Leads.quote (h : Leads .inside cs rest) : Leads .outside ('"' :: cs) rest :=
  h.cons rfl

theorem Leads.append (h : Leads .outside cs rest) (hused : '"' ∉ used) :
    Leads .outside (used ++ cs) rest :=
  .trans ⟨used, rfl, Side.after_outside hused⟩ h

theorem Leads.dropWhile {p : Char → Bool} (hp : p '"' = false)
    (h : Leads .outside (cs.dropWhile p) rest) : Leads .outside cs rest := by
  rw [← List.takeWhile_append_dropWhile (p := p) (l := cs)]
  refine h.append fun hmem => ?_
  rw [List.mem_takeWhile_imp hmem] at hp
  cases hp

theorem Leads.behindGap (h : Leads .outside (skipGap cs) rest) : Leads .outside cs rest :=
  .dropWhile rfl h

end Sides

section Tokens

variable {cs rest : List Char}

theorem readWord_leads {ws : List Char} (h : readWord ws cs = .ok rest) (hws : '"' ∉ ws) :
    Leads .outside cs rest := by
  induction ws generalizing cs with
  | nil =>
    cases h
    exact .refl _
  | cons w ws ih =>
    obtain ⟨hw, htail⟩ := not_or.mp (mt List.mem_cons.mpr hws)
    cases cs with
    | nil => cases h
    | cons c cs =>
      rw [readWord] at h
      split at h
      case isTrue heq =>
        subst heq
        exact (ih h htail).plain (Ne.symm hw)
      case isFalse => cases h

/-- The side on which the reader of a string stands. -/
def StringState.side : StringState → Side
  | escape => .escaped
  | beforePair _ => .escaped
  | _ => .inside

/-- A hexadecimal digit inside a string stays inside. -/
theorem step_hexDigit {c : Char} {d : Nat} (h : hexValue? c = some d) :
    Side.inside.step c = .inside := by
  have hquote : c ≠ '"' := by
    rintro rfl
    cases h
  have hbackslash : c ≠ '\\' := by
    rintro rfl
    cases h
  exact Side.step_inside hquote hbackslash

theorem hexFault_ne_ok {α : Type} {count : Nat} {cs : List Char} {v : α} :
    hexFault count cs ≠ .ok v := by
  unfold hexFault
  dsimp only
  split <;> exact nofun

theorem readStringFrom_leads {state : StringState} {done : List Char} {s : String}
    (h : readStringFrom state done cs = .ok (s, rest)) : Leads state.side cs rest := by
  -- a case for each way the reader goes on; it ends well at a closing quote only
  fun_induction readStringFrom state done cs
  case case3 =>
    cases h
    exact (Leads.refl _).cons rfl
  case case4 ih => exact (ih h).cons rfl
  case case6 hquote hbackslash _ ih =>
    exact (ih h).cons (Side.step_inside hquote hbackslash)
  case case7 ih => exact (ih h).cons rfl
  case case8 ih => exact (ih h).cons rfl
  case case10 => exact absurd h hexFault_ne_ok
  case case11 hdigit _ _ ih => exact (ih h).cons (step_hexDigit hdigit)
  case case13 hdigit _ _ _ _ ih => exact (ih h).cons (step_hexDigit hdigit)
  case case14 hdigit _ _ _ _ ih => exact (ih h).cons (step_hexDigit hdigit)
  case case15 hdigit _ _ _ _ ih => exact (ih h).cons (step_hexDigit hdigit)
  case case17 ih => exact (ih h).cons rfl
  case case19 ih => exact (ih h).cons rfl
  all_goals cases h

theorem readString_leads {s : String} (h : readString cs = .ok (s, rest)) :
    Leads .inside cs rest :=
  readStringFrom_leads h

theorem dropWhile_isDigit_leads (cs : List Char) : Leads .outside cs (cs.dropWhile isDigit) :=
  .dropWhile rfl (.refl _)

theorem assemble_leads {negative : Bool} {significand : Nat} {exp : Int} {n : Number}
    (h : assemble negative significand exp cs = .ok (n, rest)) : Leads .outside cs rest := by
  unfold assemble at h
  split at h <;> cases h
  exact .refl _

theorem readExponent_leads {negative : Bool} {significand : Nat} {exp : Int} {n : Number}
    (h : readExponent negative significand exp cs = .ok (n, rest)) : Leads .outside cs rest := by
  unfold readExponent at h
  split at h
  rename_i up digits hsign
  have hdigits : Leads .outside digits rest → Leads .outside cs rest := by
    split at hsign <;> cases hsign
    · exact fun h => h.plain (by decide)
    · exact fun h => h.plain (by decide)
    · exact id
  refine hdigits ?_
  split at h
  case h_1 => cases h
  case h_2 =>
    split at h
    case isTrue => cases h
    case isFalse =>
      dsimp only at h
      split at h
      case h_1 => exact (dropWhile_isDigit_leads _).trans (assemble_leads h)
      case h_2 =>
        split at h <;> cases h
        exact dropWhile_isDigit_leads _

theorem readScale_leads {negative : Bool} {significand : Nat} {exp : Int} {n : Number}
    (h : readScale negative significand exp cs = .ok (n, rest)) : Leads .outside cs rest := by
  unfold readScale at h
  split at h
  case h_1 => exact (readExponent_leads h).plain (by decide)
  case h_2 => exact (readExponent_leads h).plain (by decide)
  case h_3 => exact assemble_leads h

theorem readDecimals_leads {negative : Bool} {significand : Nat} {exp : Int} {n : Number}
    (h : readDecimals negative significand exp cs = .ok (n, rest)) : Leads .outside cs rest := by
  simp only [readDecimals] at h
  split at h
  case isTrue => split at h <;> cases h
  case isFalse => exact (dropWhile_isDigit_leads cs).trans (readScale_leads h)

theorem readUnsigned_leads {negative : Bool} {n : Number}
    (h : readUnsigned negative cs = .ok (n, rest)) : Leads .outside cs rest := by
  unfold readUnsigned at h
  split at h
  case h_1 => cases h
  case h_2 c tail =>
    split at h
    case isTrue => cases h
    case isFalse =>
      split at h
      case isTrue => cases h
      case isFalse =>
        refine (dropWhile_isDigit_leads _).trans ?_
        dsimp only at h
        split at h
        case h_1 hdrop =>
          rw [hdrop]
          exact (readDecimals_leads h).plain (by decide)
        case h_2 hdrop =>
          rw [hdrop] at h ⊢
          exact readScale_leads h
        case h_3 hdrop =>
          rw [hdrop] at h ⊢
          exact readScale_leads h
        case h_4 =>
          split at h
          case isTrue =>
            cases h
            exact .refl _
          case isFalse => exact assemble_leads h

theorem readNumber_leads {n : Number} (h : readNumber cs = .ok (n, rest)) :
    Leads .outside cs rest := by
  unfold readNumber at h
  split at h
  case h_1 => exact (readUnsigned_leads h).plain (by decide)
  case h_2 => exact readUnsigned_leads h

end Tokens

/-! ## Readers of values -/

/-- A reader that starts outside strings stops outside strings. -/
def Finishes {α : Type} (read : List Char → Except Fault (α × List Char)) : Prop :=
  ∀ {cs v rest}, read cs = .ok (v, rest) → Leads .outside cs rest

section Readers

variable {α : Type} {cs rest : List Char} {limit room : Nat}

theorem nextItem_leads {first more : Bool} (h : nextItem first cs = .ok (more, rest)) :
    Leads .outside cs rest := by
  unfold nextItem at h
  refine .behindGap ?_
  split at h
  case h_1 => cases h
  case h_2 hgap =>
    cases h
    rw [hgap]
    exact .one (by decide)
  case h_3 c tail hgap =>
    rw [hgap]
    split at h
    case isTrue =>
      cases h
      exact .refl _
    case isFalse =>
      split at h
      case isTrue hcomma =>
        subst hcomma
        refine .plain (.behindGap ?_) (by decide)
        split at h <;> cases h
        exact .refl _
      case isFalse => cases h

theorem endList_leads (h : endList cs = .ok rest) : Leads .outside cs rest := by
  unfold endList at h
  refine .behindGap ?_
  split at h
  case h_2 hgap =>
    cases h
    rw [hgap]
    exact .one (by decide)
  case h_3 => split at h <;> cases h
  all_goals cases h

/-- A name that is read behind its opening quote ends outside strings. -/
theorem quotedName_leads {name : Option String}
    (h : (match readString cs with
      | .error e => .error e
      | .ok (s, rest) => .ok (some s, rest) : Except Fault (Option String × List Char)) =
        .ok (name, rest)) : Leads .inside cs rest := by
  split at h
  case h_1 => cases h
  case h_2 hread =>
    cases h
    exact readString_leads hread

theorem nextName_leads {first : Bool} {name : Option String}
    (h : nextName first cs = .ok (name, rest)) : Leads .outside cs rest := by
  unfold nextName at h
  refine .behindGap ?_
  dsimp only at h
  split at h
  case h_1 => cases h
  case h_2 hgap =>
    cases h
    rw [hgap]
    exact .one (by decide)
  case h_3 hgap =>
    rw [hgap]
    split at h
    case isTrue =>
      split at h
      case isTrue hquote =>
        subst hquote
        exact (quotedName_leads h).quote
      case isFalse => cases h
    case isFalse =>
      split at h
      case isTrue hcomma =>
        subst hcomma
        refine .plain (.behindGap ?_) (by decide)
        split at h
        case h_2 hbehind =>
          rw [hbehind]
          exact (quotedName_leads h).quote
        all_goals cases h
      case isFalse => cases h

theorem readColon_leads (h : readColon cs = .ok rest) : Leads .outside cs rest := by
  unfold readColon at h
  refine .behindGap ?_
  split at h
  case h_2 hgap =>
    cases h
    rw [hgap]
    exact .one (by decide)
  all_goals cases h

theorem readItems_finishes {item : List Char → Except Fault (α × List Char)}
    (hitem : Finishes item) {fuel : Nat} {first : Bool} {done items : List α}
    (h : readItems item fuel first done cs = .ok (items, rest)) : Leads .outside cs rest := by
  induction fuel generalizing first done cs with
  | zero => cases h
  | succ fuel ih =>
    rw [readItems] at h
    split at h
    case h_1 => cases h
    case h_2 hnext =>
      cases h
      exact nextItem_leads hnext
    case h_3 hnext =>
      split at h
      case h_1 => cases h
      case h_2 hread => exact (nextItem_leads hnext).trans ((hitem hread).trans (ih h))

theorem readMembers_finishes {value : List Char → Except Fault (α × List Char)}
    (hvalue : Finishes value) {fuel : Nat} {first : Bool} {done members : List (String × α)}
    (h : readMembers value fuel first done cs = .ok (members, rest)) : Leads .outside cs rest := by
  induction fuel generalizing first done cs with
  | zero => cases h
  | succ fuel ih =>
    rw [readMembers] at h
    split at h
    case h_1 => cases h
    case h_2 hnext =>
      cases h
      exact nextName_leads hnext
    case h_3 hnext =>
      split at h
      case h_1 => cases h
      case h_2 hcolon =>
        split at h
        case h_1 => cases h
        case h_2 hread =>
          exact (nextName_leads hnext).trans
            ((readColon_leads hcolon).trans ((hvalue hread).trans (ih h)))

theorem afterWord_leads {word : String} {result v : α}
    (h : afterWord word result cs = .ok (v, rest)) (hword : '"' ∉ word.toList) :
    Leads .outside cs rest := by
  unfold afterWord at h
  split at h
  case h_1 => cases h
  case h_2 hread =>
    cases h
    exact readWord_leads hread hword

theorem readScalar_finishes : Finishes readScalar := by
  intro cs v rest h
  unfold readScalar at h
  split at h
  case h_1 => cases h
  case h_2 => exact (afterWord_leads h (by decide)).plain (by decide)
  case h_3 => exact (afterWord_leads h (by decide)).plain (by decide)
  case h_4 => exact (afterWord_leads h (by decide)).plain (by decide)
  case h_5 =>
    split at h
    case h_1 => cases h
    case h_2 hread =>
      cases h
      exact (readString_leads hread).quote
  case h_6 =>
    split at h
    case isTrue =>
      split at h
      case h_1 => cases h
      case h_2 hread =>
        cases h
        exact readNumber_leads hread
    case isFalse => cases h

theorem readValue_finishes : Finishes (readValue limit room) := by
  intro cs v rest h
  induction room generalizing cs v rest with
  | zero =>
    rw [readValue] at h
    refine .behindGap ?_
    split at h
    case h_1 => cases h
    case h_2 => cases h
    case h_3 => exact readScalar_finishes h
  | succ room ih =>
    rw [readValue] at h
    refine .behindGap ?_
    split at h
    case h_1 hgap =>
      rw [hgap]
      split at h
      case h_1 => cases h
      case h_2 hread =>
        cases h
        exact (readItems_finishes ih hread).plain (by decide)
    case h_2 hgap =>
      rw [hgap]
      split at h
      case h_1 => cases h
      case h_2 hread =>
        cases h
        exact (readMembers_finishes ih hread).plain (by decide)
    case h_3 => exact readScalar_finishes h

theorem refuse_ne_ok {expected : String} {v : α × List Char} : refuse expected cs ≠ .ok v := by
  intro h
  unfold refuse at h
  dsimp only at h
  split at h
  case h_3 => split at h <;> cases h
  all_goals cases h

theorem readText_finishes : Finishes (readText room) := by
  intro cs v rest h
  unfold readText at h
  refine .behindGap ?_
  split at h
  case h_1 hgap =>
    rw [hgap]
    exact (readString_leads h).quote
  case h_2 => exact absurd h refuse_ne_ok

theorem readMap_finishes {value : Reader α} (hvalue : ∀ room, Finishes (value room)) :
    Finishes (readMap limit value room) := by
  intro cs v rest h
  unfold readMap at h
  refine .behindGap ?_
  split at h
  case h_1 hgap =>
    split at h
    case h_1 => cases h
    case h_2 room =>
      rw [hgap]
      exact (readMembers_finishes (hvalue room) h).plain (by decide)
  case h_2 => exact absurd h refuse_ne_ok

end Readers

section Skipping

variable {cs rest : List Char}

/-- The side on which a string is passed over. -/
def SkipState.side : SkipState → Side
  | escape => .escaped
  | _ => .inside

theorem skipStringFrom_leads {state : SkipState} (h : skipStringFrom state cs = .ok rest) :
    Leads state.side cs rest := by
  fun_induction skipStringFrom state cs
  case case2 =>
    cases h
    exact (Leads.refl _).cons rfl
  case case3 ih => exact (ih h).cons rfl
  case case5 hquote hbackslash _ ih => exact (ih h).cons (Side.step_inside hquote hbackslash)
  case case6 ih => exact (ih h).cons rfl
  case case7 ih => exact (ih h).cons rfl
  case case9 => exact absurd h hexFault_ne_ok
  case case10 hdigit ih =>
    refine (ih h).cons ((step_hexDigit hdigit).trans ?_)
    split <;> rfl
  all_goals cases h

theorem skipString_leads (h : skipString cs = .ok rest) : Leads .inside cs rest :=
  skipStringFrom_leads h

theorem skipExponent_leads (h : skipExponent cs = .ok rest) : Leads .outside cs rest := by
  unfold skipExponent at h
  dsimp only at h
  split at h <;> split at h <;> cases h
  · exact (dropWhile_isDigit_leads _).plain (by decide)
  · exact (dropWhile_isDigit_leads _).plain (by decide)
  · exact dropWhile_isDigit_leads _

theorem skipScale_leads (h : skipScale cs = .ok rest) : Leads .outside cs rest := by
  unfold skipScale at h
  split at h
  case h_1 => exact (skipExponent_leads h).plain (by decide)
  case h_2 => exact (skipExponent_leads h).plain (by decide)
  case h_3 =>
    cases h
    exact .refl _

theorem skipUnsigned_leads (h : skipUnsigned cs = .ok rest) : Leads .outside cs rest := by
  unfold skipUnsigned at h
  split at h
  case h_1 => cases h
  case h_2 c tail =>
    split at h
    case isTrue => cases h
    case isFalse =>
      split at h
      case isTrue => cases h
      case isFalse =>
        refine (dropWhile_isDigit_leads _).trans ?_
        split at h
        case h_1 hdrop =>
          rw [hdrop]
          split at h
          case isTrue =>
            exact ((dropWhile_isDigit_leads _).trans (skipScale_leads h)).plain (by decide)
          case isFalse => cases h
        case h_2 => exact skipScale_leads h

theorem skipName_leads (h : skipName cs = .ok rest) : Leads .outside cs rest := by
  unfold skipName at h
  refine .behindGap ?_
  split at h
  case h_1 => cases h
  case h_2 hgap =>
    rw [hgap]
    split at h
    case isTrue => cases h
    case isFalse hquote =>
      obtain rfl := not_not.mp hquote
      split at h
      case h_1 => cases h
      case h_2 hread =>
        refine .quote ((skipString_leads hread).trans (.behindGap ?_))
        split at h
        case h_2 hbehind =>
          cases h
          rw [hbehind]
          exact .one (by decide)
        all_goals cases h

theorem enter_leads {fuel : Nat} {open_ : Bracket} {outer : List Bracket}
    (hskip : ∀ {stack : List Bracket} {cs : List Char},
      skipFrom fuel .value stack cs = .ok rest → Leads .outside cs rest)
    (h : skipFrom.enter fuel open_ outer cs = .ok rest) : Leads .outside cs rest := by
  unfold skipFrom.enter at h
  split at h
  case h_1 => exact hskip h
  case h_2 =>
    split at h
    case h_1 => cases h
    case h_2 hname => exact (skipName_leads hname).trans (hskip h)

theorem PassesToken.leads (h : PassesToken cs rest) : Leads .outside cs rest := by
  cases h with
  | null hword => exact (readWord_leads hword (by decide)).plain (by decide)
  | true hword => exact (readWord_leads hword (by decide)).plain (by decide)
  | false hword => exact (readWord_leads hword (by decide)).plain (by decide)
  | string hstring => exact (skipString_leads hstring).quote
  | negative hnumber => exact (skipUnsigned_leads hnumber).plain (by decide)
  | number hnumber => exact skipUnsigned_leads hnumber

theorem skipFrom_leads {fuel : Nat} {stage : SkipStage} {stack : List Bracket}
    (h : skipFrom fuel stage stack cs = .ok rest) : Leads .outside cs rest := by
  -- entering a bracket hands its fuel on, so the induction is on the fuel of the walk alone
  induction fuel generalizing stage stack cs with
  | zero => exact absurd h skipFrom_zero_ne_ok
  | succ fuel ih =>
    match stage, stack with
    | .inside _, [] => exact skipFrom_inside_nil h ▸ .refl _
    | .inside _, open_ :: outer =>
      refine .behindGap ?_
      cases skipFrom_inside_step h with
      | comma hskip hmore =>
        rw [hskip]
        exact (enter_leads ih hmore).plain (by decide)
      | close hskip hmore =>
        rw [hskip]
        exact (ih hmore).plain (by cases open_ <;> decide)
      | first hmore => exact enter_leads ih hmore
    | .value, stack =>
      refine .behindGap ?_
      cases skipFrom_value_step h with
      | token hskip hword hmore =>
        rw [hskip]
        exact hword.leads.trans (ih hmore)
      | bracket open_ hskip hmore =>
        rw [hskip]
        exact (ih hmore).plain (by cases open_ <;> decide)

theorem skipValue_leads {limit : Nat} (h : skipValue limit cs = .ok rest) :
    Leads .outside cs rest :=
  skipFrom_leads h

end Skipping

section Records

variable {σ : Type} {r : Record σ} {limit room : Nat} {cs rest : List Char} {given out : σ}

/-- Every field of a record is read by a reader that stops outside strings. -/
def Record.Finishes (r : Record σ) : Prop :=
  ∀ f ∈ r.fields, ∀ room, Json.Finishes (f.read room)

theorem Field.of_finishes {α : Type} {name : String} {required : Bool} {isGiven : σ → Bool}
    {value : Reader α} {store : α → σ → σ} (hvalue : ∀ room, Json.Finishes (value room)) :
    Json.Finishes ((Field.of name required isGiven value store).read room) := by
  intro cs v rest h
  simp only [Field.of] at h
  split at h
  case h_1 => cases h
  case h_2 hread =>
    cases h
    exact hvalue room hread

theorem mismatchInObject_ne_ok {α : Type} {m : Mismatch} {v : α} :
    mismatchInObject m cs ≠ .ok v := by
  unfold mismatchInObject
  split <;> exact nofun

theorem Record.readFields_leads (hr : r.Finishes) {fuel : Nat} {first : Bool}
    (h : r.readFields limit room fuel first given cs = .ok (out, rest)) :
    Leads .outside cs rest := by
  induction fuel generalizing first given cs with
  | zero => cases h
  | succ fuel ih =>
    rw [Record.readFields] at h
    split at h
    case h_1 => cases h
    case h_2 hnext =>
      split at h <;> cases h
      exact nextName_leads hnext
    case h_3 hnext =>
      refine (nextName_leads hnext).trans ?_
      split at h
      case h_1 f hfield =>
        split at h
        case isTrue => exact absurd h mismatchInObject_ne_ok
        case isFalse =>
          split at h
          case h_1 => cases h
          case h_2 hcolon =>
            split at h
            case h_1 => cases h
            case h_2 hread =>
              have hvalue := hr f (List.mem_of_find?_eq_some hfield) room hread
              exact (readColon_leads hcolon).trans (hvalue.trans (ih h))
      case h_2 =>
        split at h
        case h_1 => cases h
        case h_2 hcolon =>
          split at h
          case h_1 => cases h
          case h_2 hskip =>
            exact (readColon_leads hcolon).trans ((skipValue_leads hskip).trans (ih h))

theorem Record.readItems_leads {fields : List (Field σ)}
    (hr : ∀ f ∈ fields, ∀ room, Json.Finishes (f.read room)) {index : Nat}
    (h : r.readItems room fields index given cs = .ok (out, rest)) : Leads .outside cs rest := by
  induction fields generalizing index given cs with
  | nil =>
    rw [Record.readItems] at h
    split at h
    case h_1 => cases h
    case h_2 hend =>
      cases h
      exact endList_leads hend
  | cons f fs ih =>
    rw [Record.readItems] at h
    split at h
    case h_1 => cases h
    case h_2 hnext =>
      split at h <;> cases h
      exact nextItem_leads hnext
    case h_3 hnext =>
      split at h
      case h_1 => cases h
      case h_2 hread =>
        have hvalue := hr f List.mem_cons_self room hread
        have hrest := ih (fun g hg => hr g (List.mem_cons_of_mem f hg)) h
        exact (nextItem_leads hnext).trans (hvalue.trans hrest)

theorem Record.read_finishes (hr : r.Finishes) {empty : σ} :
    Json.Finishes (r.read limit empty room) := by
  intro cs v rest h
  unfold Record.read at h
  refine .behindGap ?_
  split at h
  case h_1 => cases h
  case h_2 hgap =>
    rw [hgap]
    split at h
    case h_1 => cases h
    case h_2 => exact (Record.readItems_leads hr h).plain (by decide)
  case h_3 hgap =>
    rw [hgap]
    split at h
    case h_1 => cases h
    case h_2 => exact (Record.readFields_leads hr h).plain (by decide)
  case h_4 => exact absurd h refuse_ne_ok

end Records

/-- A text that is read as a whole ends outside strings. -/
theorem readWhole_outside {α : Type} {value : Nat → Reader α} {cs : List Char} {v : α}
    (hvalue : ∀ limit room, Finishes (value limit room)) (h : readWhole value cs = .ok v) :
    Side.outside.after cs = .outside := by
  unfold readWhole at h
  split at h
  case h_1 => cases h
  case h_2 w rest hread =>
    have hend : Leads .outside rest [] := by
      refine .behindGap ?_
      split at h
      case h_1 hgap =>
        rw [hgap]
        exact .refl []
      case h_2 => cases h
    obtain ⟨used, hused, hside⟩ := (hvalue _ _ hread).trans hend
    rwa [hused, List.append_nil]

end HomeAgents.Json
