/-!
# Arguments

The words after the name of the program: a command and options. An option may stand before the
command or behind it, but only once at each place, and the one behind counts. The value of an
option does not begin with a hyphen; after `--` no word is an option.
-/

namespace HomeAgents.CommandLine

/-- What the program is asked to do. -/
inductive Command where
  | converse
  | prompt (message : String)
  | agents (name : Option String)
deriving DecidableEq, Repr, Inhabited

/-- The options with a value. -/
inductive OptionName where
  | model
  | provider
  | baseUrl
  | config
  | agent
deriving DecidableEq, Repr, Inhabited

namespace OptionName

def ofWord? : String → Option OptionName
  | "model" => some model
  | "provider" => some provider
  | "base-url" => some baseUrl
  | "config" => some config
  | "agent" => some agent
  | _ => none

def ofLetter? : Char → Option OptionName
  | 'm' => some model
  | 'p' => some provider
  | 'c' => some config
  | 'a' => some agent
  | _ => none

/-- Whether a text may be the value of an option. -/
def takes : OptionName → String → Bool
  | config, value => !value.isEmpty
  | _, _ => true

end OptionName

structure Options where
  values : List (OptionName × String) := []
  verbose : Bool := false
deriving DecidableEq, Repr, Inhabited

def Options.get? (o : Options) (name : OptionName) : Option String :=
  o.values.lookup name

/-- Options behind others; the ones behind count. -/
def Options.before (upper lower : Options) : Options :=
  ⟨lower.values ++ upper.values, lower.verbose || upper.verbose⟩

/-- Why there is nothing to do: help is asked for, or the words make no sense. -/
inductive Refusal where
  | help
  | misuse
deriving DecidableEq, Repr, Inhabited

/-- What a word is by its form. -/
inductive Word where
  | plain (s : String)
  | closing
  | long (name : String) (value : Option String)
  | short (letters : List Char)
deriving DecidableEq, Repr, Inhabited

def Word.ofString (s : String) : Word :=
  match s.toList with
  | ['-'] => plain s
  | ['-', '-'] => closing
  | '-' :: '-' :: cs =>
    match cs.dropWhile (· ≠ '=') with
    | [] => long (String.ofList cs) none
    | _ :: value => long (String.ofList (cs.takeWhile (· ≠ '='))) (some (String.ofList value))
  | '-' :: letters => short letters
  | _ => plain s

/-- What has been read at one place: options and plain words. -/
structure Given where
  options : Options := {}
  words : List String := []
deriving DecidableEq, Repr, Inhabited

namespace Given

/-- Sets an option that is not set yet. -/
def set (g : Given) (name : OptionName) (value : String) : Except Refusal Given :=
  if (g.options.get? name).isSome || !name.takes value then .error .misuse
  else .ok { g with options := { g.options with values := g.options.values ++ [(name, value)] } }

def setVerbose (g : Given) : Except Refusal Given :=
  if g.options.verbose then .error .misuse
  else .ok { g with options := { g.options with verbose := true } }

/-- Reads letters. The last of them may be an option whose value is the next word. -/
def letters (g : Given) : List Char → Except Refusal (Given × Option OptionName)
  | [] => .ok (g, none)
  | 'v' :: cs =>
    match g.setVerbose with
    | .error e => .error e
    | .ok g => letters g cs
  | 'h' :: _ => .error .help
  | c :: cs =>
    match OptionName.ofLetter? c, cs with
    | none, _ => .error .misuse
    | some name, [] => .ok (g, some name)
    | some name, '=' :: value => (g.set name (String.ofList value)).map fun g => (g, none)
    | some name, value => (g.set name (String.ofList value)).map fun g => (g, none)

/-- Reads a word that begins with two hyphens. It may be an option whose value is the next word. -/
def long (g : Given) (name : String) (value : Option String) :
    Except Refusal (Given × Option OptionName) :=
  match name, value, OptionName.ofWord? name with
  | "verbose", none, _ => g.setVerbose.map fun g => (g, none)
  | "help", none, _ => .error .help
  | _, some value, some option => (g.set option value).map fun g => (g, none)
  | _, none, some option => .ok (g, some option)
  | _, _, none => .error .misuse

end Given

/-- Reads words up to one that is a command, which is given back with the words behind it. Up to
`room` plain words are taken; a word after `pending` is the value of that option. -/
def readWords (commands : List String) (room : Nat) (pending : Option OptionName) (closed : Bool)
    (g : Given) : List String → Except Refusal (Given × Option (String × List String))
  | [] => if pending.isSome then .error .misuse else .ok (g, none)
  | s :: rest =>
    match pending, (if closed then .plain s else Word.ofString s) with
    | some name, .plain value =>
      match g.set name value with
      | .error e => .error e
      | .ok g => readWords commands room none closed g rest
    | some _, _ => .error .misuse
    | none, .plain word =>
      if !closed && commands.contains word then .ok (g, some (word, rest))
      else if g.words.length < room then
        readWords commands room none closed { g with words := g.words ++ [word] } rest
      else .error .misuse
    | none, .closing => readWords commands room none true g rest
    | none, .long name value =>
      match g.long name value with
      | .error e => .error e
      | .ok (g, pending) => readWords commands room pending closed g rest
    | none, .short letters =>
      match g.letters letters with
      | .error e => .error e
      | .ok (g, pending) => readWords commands room pending closed g rest

/-- The names of the commands. -/
def commandNames : List String := ["repl", "prompt", "agents", "help"]

/-- What the program is asked to do, and how. -/
structure Arguments where
  command : Command
  options : Options
deriving DecidableEq, Repr, Inhabited

def readCommand (upper : Options) (name : String) (rest : List String) : Except Refusal Arguments :=
  let behind (room : Nat) (command : List String → Option Command) : Except Refusal Arguments :=
    match readWords [] room none false {} rest with
    | .error e => .error e
    | .ok (g, _) =>
      match command g.words with
      | some command => .ok ⟨command, upper.before g.options⟩
      | none => .error .misuse
  match name with
  | "prompt" => behind 1 fun ws => ws.head?.map .prompt
  | "agents" => behind 1 fun ws => some (.agents ws.head?)
  | "repl" => behind 0 fun _ => some .converse
  | _ =>
    match rest with
    | [] => .error .help
    | [topic] => .error (if commandNames.contains topic then .help else .misuse)
    | _ => .error .misuse

/-- Reads the words after the name of the program. Without a command they ask for a conversation. -/
def Arguments.ofWords (words : List String) : Except Refusal Arguments :=
  match readWords commandNames 0 none false {} words with
  | .error e => .error e
  | .ok (g, none) => .ok ⟨.converse, g.options⟩
  | .ok (g, some (name, rest)) => readCommand g.options name rest

end HomeAgents.CommandLine
