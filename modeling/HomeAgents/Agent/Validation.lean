import HomeAgents.Agent.Config
import HomeAgents.Agent.Error
import HomeAgents.Binary.Shortest
import HomeAgents.Text.Blank
import HomeAgents.Text.Search

/-!
# Valid configurations

What a configuration must satisfy by itself, and what it must satisfy against the names of the
tools and services that are there. The first problem in a fixed order is reported.
-/

namespace HomeAgents

/-- What can be wrong with a configuration, or with a set of agents. -/
inductive ConfigProblem where
  | emptyName
  | noTurns (agent : String)
  | noHistory (agent : String)
  | temperatureOutside (agent : String) (temperature : Binary.Value)
  | placeholderInPlainPrompt (agent : String)
  | undeclaredService (agent action service : String)
  | unknownTool (agent tool : String)
  | unknownService (agent service : String)
  | duplicateAgent (agent : String)
  | defaultMissing (agent : String)
deriving DecidableEq, Repr

/-- The mark in a template that stands for the tool listing. -/
def toolListPlaceholder : String := "\x7btool_list\x7d"

def ConfigProblem.message : ConfigProblem → String
  | emptyName => "agent name must not be empty"
  | noTurns agent => "agent '" ++ agent ++ "': max_turns must be positive"
  | noHistory agent => "agent '" ++ agent ++ "': history_window must be positive"
  | temperatureOutside agent t =>
    "agent '" ++ agent ++ "': temperature " ++ Binary.single.display t ++ " outside [0, 2]"
  | placeholderInPlainPrompt agent =>
    "agent '" ++ agent ++ "': prompt contains " ++ toolListPlaceholder ++
      " but prompt_style is plain"
  | undeclaredService agent action service =>
    "agent '" ++ agent ++ "': command '" ++ action ++ "' routes to undeclared service '" ++
      service ++ "'"
  | unknownTool agent tool => "agent '" ++ agent ++ "': unknown tool '" ++ tool ++ "'"
  | unknownService agent service => "agent '" ++ agent ++ "': unknown service '" ++ service ++ "'"
  | duplicateAgent agent => "duplicate agent name '" ++ agent ++ "'"
  | defaultMissing agent => "default agent '" ++ agent ++ "' is not registered"

def ConfigProblem.toError (p : ConfigProblem) : AgentError :=
  .configuration p.message

namespace AgentConfig

/-- The temperature is a number from 0 to 2. -/
def temperatureInRange (c : AgentConfig) : Bool :=
  (Binary.single.ofInt 0).le c.temperature && c.temperature.le (Binary.single.ofInt 2)

/-- The first problem that needs no registry. -/
def basicProblem? (c : AgentConfig) : Option ConfigProblem :=
  if Text.isBlankText c.name then some .emptyName
  else if c.maxTurns = 0 then some (.noTurns c.name)
  else if c.historyWindow = 0 then some (.noHistory c.name)
  else if !c.temperatureInRange then some (.temperatureOutside c.name c.temperature)
  else if c.promptStyle = .plain && Text.contains c.systemPrompt toolListPlaceholder then
    some (.placeholderInPlainPrompt c.name)
  else
    (List.find? (fun e => !c.allowsService e.2) c.commands).map fun e =>
      .undeclaredService c.name e.1 e.2

/-- The first declared tool that is not among the given names. -/
def toolProblem? (c : AgentConfig) (names : List String) : Option ConfigProblem :=
  (c.tools.find? fun t => !names.contains t).map (.unknownTool c.name)

/-- The first declared service that is not among the given names. -/
def serviceProblem? (c : AgentConfig) (names : List String) : Option ConfigProblem :=
  (c.services.find? fun s => !names.contains s).map (.unknownService c.name)

/-- The first problem of the configuration among given tools and services. -/
def problem? (c : AgentConfig) (toolNames serviceNames : List String) : Option ConfigProblem :=
  c.basicProblem? <|> c.toolProblem? toolNames <|> c.serviceProblem? serviceNames

end AgentConfig

end HomeAgents
