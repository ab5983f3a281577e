import HomeAgents.Json.Skip

/-!
# What one step of the walk over a value takes

The walk over a value nobody asked for has two stages. From each of them a step that goes on takes
something definite from the text: a token or an opening bracket where a value must stand, and a
comma, a closing bracket or nothing inside the innermost open bracket. Whatever holds of a whole
walk is proved from these few ways to go on.
-/

namespace HomeAgents.Json

def Bracket.left : Bracket → Char
  | list => '['
  | object => '\x7b'

def Bracket.right : Bracket → Char
  | list => ']'
  | object => '\x7d'

/-- A value without brackets is passed over from its first character to what stands behind it. -/
inductive PassesToken : List Char → List Char → Prop
  | null {cs ds} (h : readWord "ull".toList cs = .ok ds) : PassesToken ('n' :: cs) ds
  | true {cs ds} (h : readWord "rue".toList cs = .ok ds) : PassesToken ('t' :: cs) ds
  | false {cs ds} (h : readWord "alse".toList cs = .ok ds) : PassesToken ('f' :: cs) ds
  | string {cs ds} (h : skipString cs = .ok ds) : PassesToken ('"' :: cs) ds
  | negative {cs ds} (h : skipUnsigned cs = .ok ds) : PassesToken ('-' :: cs) ds
  | number {c cs ds} (h : skipUnsigned (c :: cs) = .ok ds) : PassesToken (c :: cs) ds

/-- How a walk that succeeds goes on before a value. -/
inductive ValueStep (fuel : Nat) (stack : List Bracket) (cs rest : List Char) : Prop
  | token {word ds} (hskip : skipGap cs = word) (hword : PassesToken word ds)
      (h : skipFrom fuel (.inside true) stack ds = .ok rest)
  | bracket {ds} (open_ : Bracket) (hskip : skipGap cs = open_.left :: ds)
      (h : skipFrom fuel (.inside false) (open_ :: stack) ds = .ok rest)

/-- How a walk that succeeds goes on inside its innermost open bracket. -/
inductive InsideStep (fuel : Nat) (open_ : Bracket) (outer : List Bracket) (cs rest : List Char) :
    Bool → Prop
  | comma {ds} (hskip : skipGap cs = ',' :: ds)
      (h : skipFrom.enter fuel open_ outer ds = .ok rest) :
      InsideStep fuel open_ outer cs rest true
  | close {afterValue ds} (hskip : skipGap cs = open_.right :: ds)
      (h : skipFrom fuel (.inside true) outer ds = .ok rest) :
      InsideStep fuel open_ outer cs rest afterValue
  | first (h : skipFrom.enter fuel open_ outer (skipGap cs) = .ok rest) :
      InsideStep fuel open_ outer cs rest false

variable {fuel : Nat} {afterValue : Bool} {cs rest : List Char} {open_ : Bracket}
  {outer stack : List Bracket}

/-- A walk that succeeds has passed over its token and goes on behind it. -/
theorem token_eq_ok {r : Except Fault (List Char)} {next : List Char → Except Fault (List Char)}
    (h : (match r with
      | .error e => .error e
      | .ok ds => next ds : Except Fault (List Char)) = .ok rest) :
    ∃ ds, r = .ok ds ∧ next ds = .ok rest := by
  split at h
  case h_1 => cases h
  case h_2 ds => exact ⟨ds, rfl, h⟩

theorem skipFrom_zero_ne_ok {stage : SkipStage} : skipFrom 0 stage stack cs ≠ .ok rest := by
  intro h
  unfold skipFrom at h
  cases h

/-- With every bracket closed the walk is over. -/
theorem skipFrom_inside_nil (h : skipFrom (fuel + 1) (.inside afterValue) [] cs = .ok rest) :
    cs = rest := by
  unfold skipFrom at h
  cases h
  rfl

theorem skipFrom_inside_step
    (h : skipFrom (fuel + 1) (.inside afterValue) (open_ :: outer) cs = .ok rest) :
    InsideStep fuel open_ outer cs rest afterValue := by
  unfold skipFrom at h
  split at h
  case h_1 => cases h
  case h_2 c tail hskip =>
    split at h
    case isTrue hcomma =>
      obtain ⟨hc, rfl⟩ := (Bool.and_eq_true ..).mp hcomma
      obtain rfl := of_decide_eq_true hc
      exact .comma hskip h
    case isFalse =>
      split at h
      case isTrue hclose =>
        have hright : c = open_.right := by
          cases open_ <;> simpa [Bracket.right] using hclose
        subst hright
        exact .close hskip h
      case isFalse =>
        split at h
        case isTrue => cases h
        case isFalse hvalue =>
          obtain rfl := eq_false_of_ne_true hvalue
          rw [← hskip] at h
          exact .first h

theorem skipFrom_value_step (h : skipFrom (fuel + 1) .value stack cs = .ok rest) :
    ValueStep fuel stack cs rest := by
  unfold skipFrom at h
  dsimp only at h
  split at h
  case h_1 => cases h
  case h_2 hskip =>
    obtain ⟨ds, hword, h⟩ := token_eq_ok h
    exact .token hskip (.null hword) h
  case h_3 hskip =>
    obtain ⟨ds, hword, h⟩ := token_eq_ok h
    exact .token hskip (.true hword) h
  case h_4 hskip =>
    obtain ⟨ds, hword, h⟩ := token_eq_ok h
    exact .token hskip (.false hword) h
  case h_5 hskip =>
    obtain ⟨ds, hnumber, h⟩ := token_eq_ok h
    exact .token hskip (.negative hnumber) h
  case h_6 hskip =>
    obtain ⟨ds, hstring, h⟩ := token_eq_ok h
    exact .token hskip (.string hstring) h
  case h_7 hskip => exact .bracket .list hskip h
  case h_8 hskip => exact .bracket .object hskip h
  case h_9 hskip =>
    split at h
    case isTrue =>
      obtain ⟨ds, hnumber, h⟩ := token_eq_ok h
      exact .token hskip (.number hnumber) h
    case isFalse => cases h

end HomeAgents.Json
