import HomeAgents.Binary.Basic
import HomeAgents.Collection.Ordered

/-!
# Agent configurations

An agent is data: a prompt, the settings of its model calls, and what it may use. Its command
table says to which service an action goes.
-/

namespace HomeAgents

/-- How the system prompt is made of its template. -/
inductive PromptStyle where
  | plain
  | toolListing
deriving DecidableEq, Repr, Inhabited

def PromptStyle.label : PromptStyle → String
  | plain => "plain"
  | toolListing => "tool_listing"

def PromptStyle.variants : List (String × PromptStyle) :=
  [("plain", .plain), ("tool_listing", .toolListing)]

/-- The configuration of an agent. `tools` and `services` have no member twice, and `commands` maps
each action to one service. -/
structure AgentConfig where
  name : String
  displayName : Option String
  description : Option String
  systemPrompt : String
  temperature : Binary.Value
  tools : List String
  services : List String
  commands : Ordered String
  maxTurns : Nat
  canNest : Bool
  historyWindow : Nat
  promptStyle : PromptStyle
  keywords : List String
  model : Option String
  maxTokens : Option Nat
  builtIn : Bool
deriving DecidableEq, Repr, Inhabited

namespace AgentConfig

/-- The temperature of `tenths / 10`. -/
def tenths (n : Nat) : Binary.Value :=
  Binary.single.ofDecimal false n (-1)

/-- A configuration with nothing but a name. -/
def new (name : String) : AgentConfig where
  name := name
  displayName := none
  description := none
  systemPrompt := ""
  temperature := tenths 7
  tools := []
  services := []
  commands := []
  maxTurns := 3
  canNest := false
  historyWindow := 6
  promptStyle := .plain
  keywords := []
  model := none
  maxTokens := none
  builtIn := false

/-- The name shown to people. -/
def shownName (c : AgentConfig) : String :=
  c.displayName.getD c.name

def allowsTool (c : AgentConfig) (tool : String) : Bool :=
  c.tools.contains tool

def allowsService (c : AgentConfig) (service : String) : Bool :=
  c.services.contains service

/-- The service an action goes to, if the table has the action and the agent declares the service.
-/
def serviceFor (c : AgentConfig) (action : String) : Option String :=
  (Ordered.find? action c.commands).filter c.allowsService

/-- Sends each of several actions to a service. -/
def withCommands (c : AgentConfig) (service : String) (actions : List String) : AgentConfig :=
  { c with commands := actions.foldl (fun m a => Ordered.insert a service m) c.commands }

end AgentConfig

end HomeAgents
