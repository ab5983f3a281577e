import HomeAgents.Setting.Places
import HomeAgents.Text.Blank
import HomeAgents.Unicode.Word

/-!
# Variables from a file

A file `.env` in the current directory or in the nearest one above it may set variables that the
environment lacks. An entry is a line `NAME=value`; quotes keep blanks and line ends, a backslash
keeps the next character, and a dollar sign stands before the name of a variable whose value is
put there. What comes before a faulty entry counts, and nothing after it.
-/

namespace HomeAgents.DotEnv

/-- Where the scan for the end of an entry stands. -/
inductive Scan where
  | plain
  | blank
  | escape
  | strong
  | strongEscape
  | weak
  | weakEscape
deriving DecidableEq, Repr, Inhabited

/-- The scan behind a character, or nothing where a comment begins: at a number sign behind the
first of several blanks. -/
def Scan.next? (s : Scan) (c : Char) : Option Scan :=
  match s with
  | escape => some plain
  | strong => some (if c = '\\' then strongEscape else if c = '\'' then plain else strong)
  | strongEscape => some strong
  | weak => some (if c = '\\' then weakEscape else if c = '"' then plain else weak)
  | weakEscape => some weak
  | _ =>
    if s = blank && c = '#' then none
    else if s = plain && Text.isBlank c && c ≠ '\n' && c ≠ '\r' then some blank
    else if c = '\\' then some escape
    else if c = '"' then some weak
    else if c = '\'' then some strong
    else some plain

/-- What is before a comment, and the scan behind it unless there is one. -/
def scanLine (s : Scan) : List Char → List Char × Option Scan
  | [] => ([], some s)
  | c :: cs =>
    match s.next? c with
    | none => ([], none)
    | some s =>
      let (before, last) := scanLine s cs
      (c :: before, last)

def withoutEnding (cs : List Char) : List Char :=
  match cs.reverse with
  | '\n' :: '\r' :: rest => rest.reverse
  | '\n' :: rest => rest.reverse
  | _ => cs

/-- The entries of lines, of which those before gave `open_` and left the scan at `s`. An entry
that does not end is none. -/
def entriesFrom (s : Scan) (open_ : List Char) : List (List Char) → List (List Char)
  | [] => []
  | line :: rest =>
    let whole := open_ ++ line
    if (whole.dropWhile Text.isBlank).head? = some '#' then entriesFrom .plain [] rest
    else
      match scanLine s line with
      | (before, none) => (open_ ++ before) :: entriesFrom .plain [] rest
      | (_, some .plain) => withoutEnding whole :: entriesFrom .plain [] rest
      | (_, some s) => entriesFrom s whole rest

/-- Where the reading of a value stands; `name` and `braced` are in the middle of a variable's
name. -/
inductive Spot where
  | plain
  | strong
  | escaped
  | ended
  | comment
  | name (letters : List Char)
  | braced (letters : List Char)
deriving DecidableEq, Repr, Inhabited

/-- A value while it is read; `weak` says whether a double quote is open. -/
structure Draft where
  spot : Spot
  weak : Bool
  value : List Char
deriving DecidableEq, Repr, Inhabited

namespace Draft

def at_ (d : Draft) (spot : Spot) : Draft :=
  { d with spot }

/-- Adds a character to the value and goes on plainly. -/
def put (d : Draft) (c : Char) : Draft :=
  { d with spot := .plain, value := d.value ++ [c] }

/-- Adds the value of a variable; one that is not set adds nothing. -/
def fill (vars : EnvironmentVariables) (name : List Char) (d : Draft) : Draft :=
  { d with
    spot := .plain
    value := d.value ++ ((Ordered.find? (String.ofList name) vars).getD "").toList }

/-- Reads a character of a value. -/
def step (vars : EnvironmentVariables) (d : Draft) (c : Char) : Option Draft :=
  match d.spot with
  | .comment => some d
  | .ended =>
    if c = ' ' || c = '\t' then some d else if c = '#' then some (d.at_ .comment) else none
  | .escaped =>
    if "\\'\"$ ".toList.contains c then some (d.put c)
    else if c = 'n' then some (d.put '\n')
    else none
  | .strong => if c = '\'' then some (d.at_ .plain) else some { d with value := d.value ++ [c] }
  | .braced letters =>
    if c = '\x7d' then some (d.fill vars letters) else some (d.at_ (.braced (letters ++ [c])))
  | .name letters =>
    if Unicode.isAlphanumeric c then some (d.at_ (.name (letters ++ [c])))
    else if c = '\x7b' && letters.isEmpty then some (d.at_ (.braced []))
    else if c = '$' then some ((d.fill vars letters).at_ (.name []))
    else some ((d.fill vars letters).put c)
  | .plain =>
    if c = '$' then some (d.at_ (.name []))
    else if c = '\\' then some (d.at_ .escaped)
    else if c = '"' then some { d with weak := !d.weak }
    else if d.weak then some (d.put c)
    else if c = '\'' then some (d.at_ .strong)
    else if c = ' ' || c = '\t' then some (d.at_ .ended)
    else some (d.put c)

/-- The value that was read, if nothing is left open. -/
def close? (vars : EnvironmentVariables) (d : Draft) : Option String :=
  let closed := match d.spot with
    | .name letters => d.fill vars letters
    | _ => d
  match d.spot with
  | .strong => none
  | .braced _ => none
  | _ => if d.weak then none else some (String.ofList closed.value)

end Draft

def value? (vars : EnvironmentVariables) (cs : List Char) : Option String :=
  (cs.foldlM (Draft.step vars) ⟨.plain, false, []⟩).bind (Draft.close? vars)

/-- The name at the beginning of characters, and what comes behind it and blanks. -/
def name? (cs : List Char) : Option (String × List Char) :=
  match cs with
  | c :: _ =>
    if c.isAlpha || c = '_' then
      let name := cs.takeWhile fun c => c.isAlphanum || c = '_' || c = '.'
      some (String.ofList name, (cs.drop name.length).dropWhile Text.isBlank)
    else none
  | [] => none

/-- The name of an entry and the characters of its value. The word `export` may come first. -/
def assignment? (cs : List Char) : Option (String × List Char) :=
  match name? cs with
  | some (name, '=' :: rest) => some (name, rest.dropWhile Text.isBlank)
  | some ("export", rest) =>
    match name? rest with
    | some (name, '=' :: rest) => some (name, rest.dropWhile Text.isBlank)
    | _ => none
  | _ => none

def load (vars : EnvironmentVariables) (entry : List Char) : Option EnvironmentVariables :=
  let cs := Text.trimChars entry
  if cs.isEmpty || cs.head? = some '#' then some vars
  else
    match assignment? cs with
    | none => none
    | some (name, rest) =>
      let value := if rest.isEmpty || rest.head? = some '#' then some "" else value? vars rest
      value.map fun v =>
        if (Ordered.find? name vars).isSome then vars else Ordered.insert name v vars

/-- Sets the variables of entries up to a faulty one. -/
def loadAll (vars : EnvironmentVariables) : List (List Char) → EnvironmentVariables
  | [] => vars
  | entry :: rest =>
    match load vars entry with
    | none => vars
    | some vars => loadAll vars rest

/-- The lines of a file with their endings, up to one that is no text. -/
def linesOf (bytes : ByteArray) : List (List Char) :=
  let (last, lines) := bytes.toList.foldr
    (fun b (acc : List UInt8 × List (List UInt8)) =>
      if b = 10 then ([b], acc.1 :: acc.2) else (b :: acc.1, acc.2))
    ([], [])
  let all := (last :: lines).filter (!·.isEmpty)
  (all.map fun line => String.fromUTF8? ⟨line.toArray⟩).takeWhile (·.isSome)
    |>.filterMap fun line => line.map String.toList

/-- The variables with those that the bytes of a file add. A mark of the byte order is read over. -/
def apply (vars : EnvironmentVariables) (bytes : ByteArray) : EnvironmentVariables :=
  let lines := match linesOf bytes with
    | ('\uFEFF' :: cs) :: rest => cs :: rest
    | lines => lines
  loadAll vars (entriesFrom .plain [] lines)

/-- The file in a directory, or in the nearest above it; the directory is given as the names on
the way to it, the last one first. -/
def findIn? (tree : Files.Node) : List String → Option ByteArray
  | [] => (Files.readBytes tree "/.env").toOption
  | name :: above =>
    let path := Files.joinPath (Files.placeText (name :: above).reverse) ".env"
    match Files.nodeAt tree path with
    | .ok (.file bytes) => some bytes
    | .ok _ => findIn? tree above
    | .error .notFound => findIn? tree above
    | .error _ => none

/-- The variables with those of the file that belongs to a directory. -/
def completed (vars : EnvironmentVariables) (tree : Files.Node) (directory : String) :
    EnvironmentVariables :=
  let names := (Files.components directory).filter (!·.isEmpty)
  match findIn? tree names.reverse with
  | some bytes => apply vars bytes
  | none => vars

end HomeAgents.DotEnv
