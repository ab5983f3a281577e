import HomeAgents.CommandLine.Household

/-!
# Conversations

A conversation takes lines. Some of them are commands to the program itself; every other one goes
to the agents, and what they did and said is printed.
-/

namespace HomeAgents.CommandLine

/-- Something that is printed: what was asked for, or a remark beside it. -/
inductive Print where
  | out (text : String)
  | remark (text : String)
deriving DecidableEq, Repr, Inhabited

/-- What was asked for, of all that is printed. -/
def Print.output (ps : List Print) : String :=
  String.join (ps.filterMap fun
    | .out text => some text
    | .remark _ => none)

def line (text : String) : Print :=
  .out (text ++ "\n")

/-- A text in a style of the terminal. -/
def styled (code text : String) : String :=
  "\x1b[" ++ code ++ "m" ++ text ++ "\x1b[0m"

def actionLine (a : Action) : String :=
  match a.outcome with
  | .completed _ => styled "32" ("✓ " ++ a.name ++ " (" ++ toString a.durationMs ++ "ms)")
  | .failed e => styled "31" ("✗ " ++ a.name ++ ": " ++ e.message)

def resultLines (r : AgentResult) : List String :=
  r.actions.map actionLine ++ [styled "1" (r.agentName ++ ":") ++ " " ++ r.text] ++
    (if r.stopReason = .cancelled then [styled "90" "(cancelled)"] else [])

/-- What is printed about a failure. Only that of a model call is part of the conversation. -/
def failurePrint (e : AgentError) : Print :=
  if e.isTransport then line ("BMO is unavailable right now. (" ++ e.message ++ ")")
  else .remark (styled "31" ("Error: " ++ e.message) ++ "\n")

/-- What is printed when the user interrupts the work. -/
def interruption : Print :=
  .remark "\n[interrupt received, cancelling...]\n"

variable {τ : Type}

namespace Household

def ask (h : Household τ) (message : String) : List Print × Household τ :=
  let r := h.dispatcher.handle h.pad message h.hint (.start h.world false (some h.telemetry))
  let prints := match r.outcome with
    | .ok result => (resultLines result).map line
    | .error e => [failurePrint e]
  ((if r.state.cancelled then [interruption] else []) ++ prints,
    { h with
      pad := r.pad
      telemetry := r.state.telemetry.getD h.telemetry
      world := r.state.world })

/-- Notes a value of the situation that is given as `key=value`. -/
def note (h : Household τ) (text : String) : List Print × Household τ :=
  let cs := text.toList
  let key := Text.trim (String.ofList (cs.takeWhile (· ≠ '=')))
  match cs.dropWhile (· ≠ '=') with
  | _ :: value =>
    if key.isEmpty then ([line "Usage: /context key=value"], h)
    else
      ([line "Noted."],
        { h with pad := h.pad.setContext key (.string (Text.trim (String.ofList value))) })
  | [] => ([line "Usage: /context key=value"], h)

def greeting (h : Household τ) : List Print :=
  ["BMO", "Session: " ++ h.session.text, "Agents: " ++ ", ".intercalate h.dispatcher.router.names,
    "", "Commands: /quit, /clear, /context key=value, /help", ""].map line

/-- What is told about the household if more output is asked for. -/
def heading (h : Household τ) : List Print :=
  if h.settings.telemetry.verbose then
    let database := Files.joinPath h.settings.telemetry.logDir Telemetry.databaseName
    ["Provider: " ++ h.settings.llm.provider, "Session: " ++ h.session.text,
      "Database: " ++ database, ""].map line
  else []

end Household

def commandHelp : List Print :=
  ["Commands:", "  /quit, /exit        - Exit", "  /clear              - Forget this conversation",
    "  /context key=value  - Tell BMO something about the situation",
    "  /help               - Show this"].map line

/-- The word before every line of the user. -/
def invitation : Print :=
  .out "bmo> "

def farewell : Print :=
  line "Bye!"

/-- A line with what was deleted by a backspace taken out. -/
def withoutDeleted (cs : List Char) : List Char :=
  cs.foldl (fun kept c => if c = '\x08' then kept.dropLast else kept ++ [c]) []

/-- Takes a line; nothing comes after it if it ends the conversation. -/
def Household.hear (h : Household τ) (input : String) : List Print × Option (Household τ) :=
  let cs := Text.trimChars (withoutDeleted input.toList)
  let text := String.ofList cs
  if cs.isEmpty then ([], some h)
  else if text = "/quit" ∨ text = "/exit" then ([farewell], none)
  else if text = "/clear" then
    ([line "History cleared."], some { h with pad := .empty })
  else if text = "/help" then (commandHelp, some h)
  else
    match Reply.behind? "/context".toList cs with
    | some rest =>
      let (prints, h) := h.note (String.ofList (Text.trimChars rest))
      (prints, some h)
    | none =>
      let (prints, h) := h.ask text
      (prints ++ [line ""], some h)

def Household.converse (h : Household τ) : List String → List Print × Household τ
  | [] => ([invitation, farewell], h)
  | input :: rest =>
    match h.hear input with
    | (prints, none) => (invitation :: prints, h)
    | (prints, some next) =>
      let (later, last) := next.converse rest
      (invitation :: prints ++ later, last)

end HomeAgents.CommandLine
