import HomeAgents.Action.Basic
import HomeAgents.Text.Search
import HomeAgents.Tool.Basic

/-!
# What the model is told of its actions

After a turn with tool calls the model gets a message with one summary for each action, in order.
The summary of a tool is followed by the output unless it already has the output in it.
-/

namespace HomeAgents.Action

variable {σ : Type}

def summary (tools : ToolRegistry σ) (a : Action) : String :=
  match a.outcome with
  | .failed e => "`" ++ a.name ++ "` failed: " ++ Text.condense e.message 300
  | .completed output =>
    match a.kind with
    | .tool =>
      match tools.humanize? a.name (.object a.arguments) (.success output) with
      | some told =>
        if Text.contains told (Text.trim output) then told
        else told ++ "\n" ++ Text.condense output 1500
      | none => a.name ++ "\n" ++ Text.condense output 1500
    | .command =>
      "ran `" ++ a.name ++ "` on " ++ a.service.getD "?" ++ ": " ++ Text.condense output 300
    | .delegation => "handed off to " ++ a.name

/-- How the message to the model begins. -/
def resultsHeader : String := "Results of your last actions:"

/-- The message that tells the model what came of its actions. -/
def resultsMessage (tools : ToolRegistry σ) (actions : List Action) : String :=
  "\n\n".intercalate (resultsHeader :: actions.map (summary tools))

end HomeAgents.Action
