import HomeAgents.Json.Lexeme

/-!
# Passing over a JSON value

A value nobody asked for must still be well-formed. It is passed over with a stack of its open
brackets, however deep they are; the sizes of its numbers and the pairing of its surrogates are
not looked at.
-/

namespace HomeAgents.Json

/-- The state inside a string that is passed over: the digits of an escape still to come. -/
inductive SkipState where
  | plain
  | escape
  | hex (count : Nat)
deriving DecidableEq, Repr

/-- Passes over a string behind its opening quote. -/
def skipStringFrom : SkipState → List Char → Except Fault (List Char)
  | _, [] => faultBefore .eofInString []
  | .plain, c :: cs =>
    if c = '"' then .ok cs
    else if c = '\\' then skipStringFrom .escape cs
    else if c.toNat < 0x20 then faultBefore .controlCharacter (c :: cs)
    else skipStringFrom .plain cs
  | .escape, c :: cs =>
    if c = 'u' then skipStringFrom (.hex 0) cs
    else if (shortEscape? c).isSome then skipStringFrom .plain cs
    else faultAt .invalidEscape (c :: cs)
  | .hex count, c :: cs =>
    match hexValue? c with
    | none => hexFault count (c :: cs)
    | some _ => skipStringFrom (if count < 3 then .hex (count + 1) else .plain) cs

def skipString (cs : List Char) : Except Fault (List Char) :=
  skipStringFrom .plain cs

/-- Passes over an exponent behind its letter. -/
def skipExponent (cs : List Char) : Except Fault (List Char) :=
  let cs :=
    match cs with
    | '+' :: rest => rest
    | '-' :: rest => rest
    | _ => cs
  if (cs.head?.map isDigit).getD false then .ok (cs.dropWhile isDigit)
  else faultAt .invalidNumber cs

/-- Passes over what may follow the digits of a number. -/
def skipScale (cs : List Char) : Except Fault (List Char) :=
  match cs with
  | 'e' :: rest => skipExponent rest
  | 'E' :: rest => skipExponent rest
  | _ => .ok cs

/-- Passes over a number behind its sign. -/
def skipUnsigned (cs : List Char) : Except Fault (List Char) :=
  match cs with
  | [] => faultAt .invalidNumber []
  | c :: tail =>
    if !isDigit c then faultAt .invalidNumber cs
    else if c = '0' && (tail.head?.map isDigit).getD false then faultAt .invalidNumber tail
    else
      match cs.dropWhile isDigit with
      | '.' :: rest =>
        if (rest.head?.map isDigit).getD false then skipScale (rest.dropWhile isDigit)
        else faultAt .invalidNumber rest
      | rest => skipScale rest

inductive Bracket where
  | list
  | object
deriving DecidableEq, Repr

/-- Passes over a name and its colon, where a member of an object begins. -/
def skipName (cs : List Char) : Except Fault (List Char) :=
  match skipGap cs with
  | [] => faultAt .eofInObject []
  | c :: rest =>
    if c ≠ '"' then faultAt .keyNotString (c :: rest)
    else
      match skipString rest with
      | .error e => .error e
      | .ok rest =>
        match skipGap rest with
        | [] => faultAt .eofInObject []
        | ':' :: rest => .ok rest
        | rest => faultAt .expectedColon rest

/-- Where the walk over a value stands: before a value, or inside the innermost open bracket, with a
value before it or right behind the bracket. -/
inductive SkipStage where
  | value
  | inside (afterValue : Bool)
deriving DecidableEq, Repr

/-- Passes over values until every bracket is closed. Each step consumes a character. -/
def skipFrom : Nat → SkipStage → List Bracket → List Char → Except Fault (List Char)
  | 0, _, _, cs => faultAt .eofInValue cs
  | _ + 1, .inside _, [], cs => .ok cs
  | fuel + 1, .inside afterValue, open_ :: outer, cs =>
    match skipGap cs with
    | [] => faultAt (match open_ with | .list => .eofInList | .object => .eofInObject) []
    | c :: rest =>
      if c = ',' && afterValue then enter fuel open_ outer rest
      else if (c = ']' && open_ = .list) || (c = '\x7d' && open_ = .object) then
        skipFrom fuel (.inside true) outer rest
      else if afterValue then
        faultAt (match open_ with | .list => .expectedListEnd | .object => .expectedObjectEnd)
          (c :: rest)
      else enter fuel open_ outer (c :: rest)
  | fuel + 1, .value, stack, cs =>
    let token (r : Except Fault (List Char)) : Except Fault (List Char) :=
      match r with
      | .error e => .error e
      | .ok rest => skipFrom fuel (.inside true) stack rest
    match skipGap cs with
    | [] => faultAt .eofInValue []
    | 'n' :: rest => token (readWord "ull".toList rest)
    | 't' :: rest => token (readWord "rue".toList rest)
    | 'f' :: rest => token (readWord "alse".toList rest)
    | '-' :: rest => token (skipUnsigned rest)
    | '"' :: rest => token (skipString rest)
    | '[' :: rest => skipFrom fuel (.inside false) (.list :: stack) rest
    | '\x7b' :: rest => skipFrom fuel (.inside false) (.object :: stack) rest
    | c :: rest =>
      if isDigit c then token (skipUnsigned (c :: rest)) else faultAt .expectedValue (c :: rest)
where
  /-- Goes on with the next item of an array or member of an object. -/
  enter (fuel : Nat) (open_ : Bracket) (outer : List Bracket) (cs : List Char) :
      Except Fault (List Char) :=
    match open_ with
    | .list => skipFrom fuel .value (.list :: outer) cs
    | .object =>
      match skipName cs with
      | .error e => .error e
      | .ok rest => skipFrom fuel .value (.object :: outer) rest

/-- Passes over one value; `limit` is at least the number of characters. -/
def skipValue (limit : Nat) (cs : List Char) : Except Fault (List Char) :=
  skipFrom (2 * limit + 2) .value [] cs

end HomeAgents.Json
