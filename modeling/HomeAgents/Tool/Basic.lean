import HomeAgents.Backend.Answer
import HomeAgents.Collection.Sorted
import HomeAgents.Json.Print
import HomeAgents.Text.Excerpt

/-!
# Tools

A tool answers questions without changing anything its user cares about. Tools are registered under
their names; which agent may use which tool is not decided here.
-/

namespace HomeAgents

/-- The name, the description and the JSON schema of the arguments of a tool. -/
structure ToolDefinition where
  name : String
  description : String
  parameters : Json
deriving BEq, Repr, Inhabited

structure ToolResult where
  output : String
  isError : Bool
deriving DecidableEq, Repr, Inhabited

def ToolResult.success (output : String) : ToolResult := ⟨output, false⟩

def ToolResult.failure (reason : String) : ToolResult := ⟨reason, true⟩

/-- What a tool knows of its caller. -/
structure ToolContext where
  agent : String
  cancelled : Bool
deriving DecidableEq, Repr, Inhabited

/-- A tool, acting on a world. `humanize` sums a run up for the model that asked for it. -/
structure Tool (σ : Type) where
  name : String
  definition : ToolDefinition
  execute : Json → ToolContext → σ → Answer σ ToolResult
  humanize : Json → ToolResult → String

/-- Why a run gave no output. -/
inductive ToolError where
  | unknown (name : String)
  | failed (tool reason : String)
  | cancelled
deriving DecidableEq, Repr, Inhabited

def ToolError.message : ToolError → String
  | unknown name => "unknown tool: " ++ name
  | failed tool reason => tool ++ ": " ++ reason
  | cancelled => "cancelled"

namespace Tool

/-- An argument as summaries show it. -/
def argumentText : Json → String
  | .string s => Text.truncate s 30
  | .number n => Json.numberText n
  | .bool b => if b then "true" else "false"
  | _ => "..."

/-- The first two arguments of a call. -/
def argumentsText : Json → String
  | .object members =>
    ", ".intercalate ((members.take 2).map fun m => m.1 ++ "=" ++ argumentText m.2)
  | _ => "..."

/-- The summary of a tool that has none of its own: its name with arguments, without the output. -/
def plainSummary (name : String) (args : Json) (result : ToolResult) : String :=
  if result.isError then name ++ " failed: " ++ Text.truncate result.output 100
  else name ++ "(" ++ argumentsText args ++ ")"

end Tool

/-- The tools that are there, by name. -/
abbrev ToolRegistry (σ : Type) := Sorted (Tool σ)

namespace ToolRegistry

variable {σ : Type}

/-- Registers a tool; one of the same name is replaced. -/
def register (tool : Tool σ) (tools : ToolRegistry σ) : ToolRegistry σ :=
  Sorted.insert tool.name tool tools

def ofList (ts : List (Tool σ)) : ToolRegistry σ :=
  ts.foldl (fun r t => register t r) []

def get? (tools : ToolRegistry σ) (name : String) : Option (Tool σ) :=
  Sorted.find? name tools

/-- The listing of tools, in the order of the given names; names without a tool are left out. -/
def descriptions (tools : ToolRegistry σ) (names : List String) : String :=
  "\n".intercalate
    ((names.filterMap tools.get?).map fun t =>
      "- " ++ t.definition.name ++ ": " ++ Text.firstLine t.definition.description)

/-- Runs a tool by its name. Nothing runs for a caller that has been cancelled. -/
def invoke (tools : ToolRegistry σ) (name : String) (args : Json) (ctx : ToolContext) (world : σ) :
    Answer σ (Except ToolError String) :=
  match tools.get? name with
  | none => .pure (.error (.unknown name)) world
  | some tool =>
    if ctx.cancelled then .pure (.error .cancelled) world
    else
      (tool.execute args ctx world).map fun r =>
        if r.isError then .error (.failed name r.output) else .ok r.output

/-- The summary of a run by the tool of the given name, if there is one. -/
def humanize? (tools : ToolRegistry σ) (name : String) (args : Json) (result : ToolResult) :
    Option String :=
  (tools.get? name).map fun t => t.humanize args result

end ToolRegistry

end HomeAgents
