import HomeAgents.Agent.Validation
import HomeAgents.Time.Civil
import HomeAgents.Tool.Basic

/-!
# System prompts

The system prompt of an agent has up to three parts: its template, the way to call tools, and its
command table grouped by service. What is known of the situation is added at every call.
-/

namespace HomeAgents

variable {σ : Type}

namespace AgentConfig

/-- The template, with the listing of the agent's tools in its place or at the end. -/
def templatePart (c : AgentConfig) (tools : ToolRegistry σ) : String :=
  match c.promptStyle with
  | .plain => c.systemPrompt
  | .toolListing =>
    let listing := tools.descriptions c.tools
    if Text.contains c.systemPrompt toolListPlaceholder then
      Text.replace c.systemPrompt toolListPlaceholder listing
    else if listing.isEmpty then c.systemPrompt
    else c.systemPrompt ++ "\n\nAvailable tools:\n" ++ listing

def toolUsage : String :=
  "To use a tool, reply with a block like this and wait for the result:\n```tool_call\n" ++
  "\x7b\"tool\": \"<name>\", \"args\": \x7b\x7d\x7d\n```"

/-- Adds an action to the group of its service, which stands where the service first occurred. -/
def addToGroup (groups : Ordered (List String)) (action service : String) : Ordered (List String) :=
  Ordered.insert service ((Ordered.find? service groups).getD [] ++ [action]) groups

/-- The command table by service. -/
def groupedCommands (commands : Ordered String) : Ordered (List String) :=
  commands.foldl (fun groups e => addToGroup groups e.1 e.2) []

/-- The line of a service in the prompt. -/
def groupLine (group : String × List String) : String :=
  "- " ++ group.1 ++ ": " ++ ", ".intercalate group.2

/-- How to give a command, and which commands there are. -/
def commandSection (groups : Ordered (List String)) : String :=
  "\n".intercalate
    (["To make something happen, include a command block in your reply:",
      "```command",
      "\x7b\"action\": \"<action>\", \"params\": \x7b\x7d\x7d",
      "```",
      "Available actions:"] ++ groups.map groupLine)

/-- The section about commands; an empty table has none. -/
def commandPart (c : AgentConfig) : Option String :=
  if c.commands.isEmpty then none else some (commandSection (groupedCommands c.commands))

/-- The parts of the system prompt; blank ones are left out. -/
def promptParts (c : AgentConfig) (tools : ToolRegistry σ) : List String :=
  ([c.templatePart tools] ++ (if c.tools.isEmpty then [] else [toolUsage]) ++
    c.commandPart.toList).filter fun part => !Text.isBlankText part

def systemPromptText (c : AgentConfig) (tools : ToolRegistry σ) : String :=
  "\n\n".intercalate (c.promptParts tools)

end AgentConfig

/-- What is known of a situation: named values in the order of their first mention. -/
abbrev Situation := Ordered Json

namespace Situation

/-- A value in the prompt: a text as it is, anything else as JSON. -/
def valueText : Json → String
  | .string s => s
  | v => v.text

/-- The section of the prompt about the situation at a moment, in local time. -/
def section_ (situation : Situation) (now : Time.Local) : String :=
  "\n".intercalate
    (["Here is what you know about the current situation:",
      "<context>",
      "  Current time: " ++ now.civil.dateText ++ " " ++ now.civil.clockText ++
        " (" ++ now.weekday ++ ")"] ++
      situation.map (fun e => "  " ++ e.1 ++ ": " ++ valueText e.2) ++
      ["</context>"])

end Situation

end HomeAgents
