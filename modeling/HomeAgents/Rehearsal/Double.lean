import HomeAgents.Dispatch.State
import HomeAgents.House.ListDirectory
import HomeAgents.Rehearsal.Stage

/-!
# Doubles

Tools and services of a rehearsal: each keeps to one manner and writes its calls down on the
stage. The tools of the house can be rehearsed as they are.
-/

namespace HomeAgents.Rehearsal

/-- How the double of a tool behaves. -/
inductive ToolManner where
  | echo
  | fixed (output : String)
  | failing (reason : String)
  | cancelling
deriving DecidableEq, Repr, Inhabited

/-- What a double of a tool gives back, and whether it cancels the work. -/
def ToolManner.result (name : String) (args : Json) : ToolManner → ToolResult × Bool
  | echo => (.success (name ++ " " ++ args.text), false)
  | fixed output => (.success output, false)
  | failing reason => (.failure reason, false)
  | cancelling => (.success "cancelled", true)

def tool (name : String) (definition : ToolDefinition) (manner : ToolManner) : Tool Stage where
  name := name
  definition := definition
  execute args ctx stage :=
    let (result, cancels) := manner.result name args
    ⟨result, cancels, [], { stage with toolRuns := stage.toolRuns ++ [⟨name, args, ctx.agent⟩] }⟩
  humanize := Tool.plainSummary name

/-- How the double of a service behaves. -/
inductive ServiceManner where
  | acknowledging
  | replying (reply : Json)
  | failing (reason : String)
  | cancelling
deriving BEq, Repr, Inhabited

/-- What a double of a service gives back, and whether it cancels the work. -/
def ServiceManner.result (action : String) : ServiceManner → Except ServiceError Json × Bool
  | acknowledging => (.ok (.ofMembers [("ok", .bool true), ("action", .string action)]), false)
  | replying reply => (.ok reply, false)
  | failing reason => (.error (.backend reason), false)
  | cancelling => (.ok .null, true)

def service (name : String) (actions : List String) (manner : ServiceManner) : Service Stage where
  name := name
  actions := actions
  call action params stage :=
    let (result, cancels) := manner.result action
    ⟨result, cancels, [],
      { stage with serviceCalls := stage.serviceCalls ++ [⟨name, action, params⟩] }⟩

def houseTools (root : String) : ToolRegistry Stage :=
  House.tools (fun stage => stage.clock) (·.files) root

def environment (tools : ToolRegistry Stage) (services : ServiceRegistry Stage) :
    Environment Stage :=
  { model := fun _ => model, tools, services, now := (·.clock) }

end HomeAgents.Rehearsal
