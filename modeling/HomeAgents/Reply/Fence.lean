import HomeAgents.Json.Print
import HomeAgents.Reply.Segment

/-!
# Writing blocks

The text that asks for an action or a tool, in the form that prompts document.
-/

namespace HomeAgents

/-- A body between the opener of its kind and a fence. -/
def Reply.fenced (kind : BlockKind) (body : Json) : String :=
  String.ofList
    (Reply.fence ++ kind.label.toList ++ '\n' :: (body.chars ++ '\n' :: Reply.fence))

def Command.toJson (c : Command) : Json :=
  .ofMembers [("action", .string c.action), ("params", .object c.params)]

def ToolCall.toJson (c : ToolCall) : Json :=
  .ofMembers [("tool", .string c.tool), ("args", .object c.args)]

/-- The block that asks for a command. -/
def Command.toFenced (c : Command) : String :=
  Reply.fenced .command c.toJson

/-- The block that asks for a tool call. -/
def ToolCall.toFenced (c : ToolCall) : String :=
  Reply.fenced .toolCall c.toJson

end HomeAgents
