import HomeAgents.Agent.Prompt
import HomeAgents.Model.Basic

/-!
# Agents

An agent is a valid configuration with its system prompt made once. It prepares the messages of a
model call: the prompt with what is known of the situation, the last entries of the history, and
the new message of the user.
-/

namespace HomeAgents

/-- The last `k` entries of a history, in order. -/
def windowHistory (history : List Message) (k : Nat) : List Message :=
  history.drop (history.length - k)

/-- An agent ready to work. A model call is given up after `timeoutMs` milliseconds. -/
structure Agent where
  config : AgentConfig
  systemPrompt : String
  timeoutMs : Nat
deriving DecidableEq, Repr, Inhabited

namespace Agent

variable {σ : Type}

/-- The time a model call may take unless something else is said. -/
def defaultTimeoutMs : Nat := 60000

/-- The agent of a configuration, if it is valid among the tools that are there. -/
def build (config : AgentConfig) (tools : ToolRegistry σ) : Except ConfigProblem Agent :=
  match config.basicProblem? <|> config.toolProblem? (Sorted.names tools) with
  | some p => .error p
  | none => .ok ⟨config, config.systemPromptText tools, defaultTimeoutMs⟩

def name (a : Agent) : String :=
  a.config.name

def params (a : Agent) : CompletionParams :=
  ⟨a.config.model, a.config.temperature, a.config.maxTokens⟩

/-- The system message of the agent in a situation at a moment, or without one. -/
def systemText (a : Agent) (situation : Option Situation) (now : Time.Local) : String :=
  match situation with
  | some situation => a.systemPrompt ++ "\n\n" ++ situation.section_ now
  | none => a.systemPrompt

/-- The messages of a first turn. -/
def prepare (a : Agent) (message : String) (history : List Message) (situation : Option Situation)
    (now : Time.Local) : List Message :=
  .system (a.systemText situation now) ::
    (windowHistory history a.config.historyWindow ++ [.user message])

end Agent

end HomeAgents
