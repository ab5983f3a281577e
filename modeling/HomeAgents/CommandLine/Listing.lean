import HomeAgents.Agent.Config
import HomeAgents.Binary.Shortest

/-!
# Listings of agents

What the program tells about its agents: a list with what each of them may use, or one agent in
full.
-/

namespace HomeAgents.CommandLine

def padded (width : Nat) (s : String) : String :=
  s ++ String.ofList (List.replicate (width - s.length) ' ')

/-- The line under a heading. -/
def rule : String :=
  String.ofList (List.replicate 60 '-')

/-- Names with commas between them, or a hyphen if there are none. -/
def namesText (names : List String) : String :=
  if names.isEmpty then "-" else ", ".intercalate names

def summaryLines (c : AgentConfig) : List String :=
  let indent := "  " ++ padded 12 "" ++ "   "
  ["  " ++ padded 12 c.name ++ (if c.builtIn then " (built-in)" else "") ++ " - " ++
      c.description.getD "No description",
    indent ++ "tools: " ++ namesText c.tools,
    indent ++ "services: " ++ namesText c.services] ++
    (if c.canNest then [indent ++ "may delegate"] else [])

def listLines (agents : List AgentConfig) : List String :=
  ["Available Agents (" ++ toString agents.length ++ "):", rule] ++ agents.flatMap summaryLines

def truthText (b : Bool) : String :=
  if b then "true" else "false"

def agentLines (c : AgentConfig) : List String :=
  [c.shownName ++ " (" ++ c.name ++ ")"] ++ c.description.toList ++
    [rule, "temperature: " ++ Binary.single.display c.temperature,
      "max_turns: " ++ toString c.maxTurns, "history_window: " ++ toString c.historyWindow,
      "may delegate: " ++ truthText c.canNest] ++
    (c.commands.map fun e => "command: " ++ e.1 ++ " -> " ++ e.2) ++ ["", c.systemPrompt]

end HomeAgents.CommandLine
