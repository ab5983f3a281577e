import HomeAgents.CommandLine.Conversation
import HomeAgents.CommandLine.Listing

/-!
# The program

A run of the program: the words of the command line decide whether agents are listed, one message is
handled or a conversation is held. A run that fails says why in its last remark.
-/

namespace HomeAgents.CommandLine

/-- How a run ends. -/
inductive Ending where
  | done
  | failed (e : Failure)
  | refused (r : Refusal)

/-- The number that a run ends with. -/
def Ending.code : Ending → Nat
  | done => 0
  | failed _ => 1
  | refused .help => 0
  | refused .misuse => 2

/-- What a run comes to. -/
structure Report (τ : Type) where
  ending : Ending
  prints : List Print
  outside : τ

/-- What is printed in answer to a call for help. -/
def usage : String :=
  "Usage: bmo [OPTIONS] [COMMAND]\n\nCommands: repl, prompt <MESSAGE>, agents [NAME], help\n" ++
    "Options: -m, --model <MODEL>; -p, --provider <PROVIDER>; --base-url <BASE_URL>;\n" ++
    "  -c, --config <CONFIG>; -v, --verbose; -a, --agent <AGENT>; -h, --help\n"

/-- What is printed if there is nothing to do. -/
def refusalPrint : Refusal → Print
  | .help => .out usage
  | .misuse => .remark usage

def tellAgents (agents : Sorted AgentConfig) : Option String → Except Failure (List Print)
  | none => .ok ((listLines (agents.map (·.2))).map line)
  | some name =>
    match Sorted.find? name agents with
    | some c => .ok ((agentLines c).map line)
    | none => .error (.unknownAgent name)

variable {τ : Type}

/-- The settings and the agents with which a command begins. -/
def prepare (s : Surroundings) (o : Options) : Except Failure (Settings × Sorted AgentConfig) := do
  let settings ← loadSettings s o
  let agents ← loadAgents s
  return (settings, agents)

/-- What is left to do when everything is set up. -/
inductive Plan (τ : Type) where
  | told (prints : List Print)
  | ask (h : Household τ) (message : String)
  | converse (h : Household τ)

/-- Sets up what a command needs. -/
def start (s : Surroundings) (a : Arguments) (o : Outside τ) (outside : τ) :
    Except Failure (Plan τ) := do
  let (settings, agents) ← prepare s a.options
  match a.command with
  | .agents name => return .told (← tellAgents agents name)
  | .prompt message =>
    return .ask (← openHousehold s settings agents (a.options.get? .agent) o outside) message
  | .converse =>
    return .converse (← openHousehold s settings agents (a.options.get? .agent) o outside)

def failureRemark (e : Failure) : Print :=
  .remark ("Error: " ++ e.message ++ "\n")

/-- Carries a command out; `lines` are what the user will say. -/
def carryOut (s : Surroundings) (a : Arguments) (lines : List String) (o : Outside τ)
    (outside : τ) : Report τ :=
  match start s a o outside with
  | .error e => ⟨.failed e, [failureRemark e], outside⟩
  | .ok (.told prints) => ⟨.done, prints, outside⟩
  | .ok (.ask h message) =>
    let (prints, last) := h.ask message
    ⟨.done, h.heading ++ prints, last.world.outside⟩
  | .ok (.converse h) =>
    let (prints, last) := h.converse lines
    ⟨.done, h.heading ++ h.greeting ++ prints, last.world.outside⟩

def run (s : Surroundings) (words lines : List String) (o : Outside τ) (outside : τ) : Report τ :=
  match Arguments.ofWords words with
  | .error r => ⟨.refused r, [refusalPrint r], outside⟩
  | .ok a => carryOut s a lines o outside

end HomeAgents.CommandLine
