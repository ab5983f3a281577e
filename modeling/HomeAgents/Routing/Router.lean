import HomeAgents.Agent.Basic
import HomeAgents.Routing.Keyword
import HomeAgents.Service.Basic

/-!
# Routers

A router has agents of different names, one of them the default. A hint decides who gets a message;
without one a policy chooses, and if it chooses nobody who is there the default agent gets it.
-/

namespace HomeAgents

/-- Chooses an agent for a message among the configurations of all agents, sorted by name. -/
abbrev RoutingPolicy := String → List AgentConfig → Option String

/-- Agents by name, the name of the default one, and a policy. -/
structure Router where
  agents : Sorted Agent
  defaultAgent : String
  policy : RoutingPolicy

namespace Router

/-- A router without agents that goes by keywords. -/
def new (defaultAgent : String) : Router :=
  ⟨[], defaultAgent, Routing.bestAgent⟩

def get? (r : Router) (name : String) : Option Agent :=
  Sorted.find? name r.agents

/-- Adds an agent of a new name. -/
def add (r : Router) (agent : Agent) : Except ConfigProblem Router :=
  if (r.get? agent.name).isSome then .error (.duplicateAgent agent.name)
  else .ok { r with agents := Sorted.insert agent.name agent r.agents }

def addAll (r : Router) : List Agent → Except ConfigProblem Router
  | [] => .ok r
  | a :: rest =>
    match r.add a with
    | .error p => .error p
    | .ok r => addAll r rest

/-- The router of several agents; the default agent must be among them. -/
def withAgents (defaultAgent : String) (agents : List Agent) : Except ConfigProblem Router :=
  match (new defaultAgent).addAll agents with
  | .error p => .error p
  | .ok r =>
    if (r.get? defaultAgent).isSome then .ok r else .error (.defaultMissing defaultAgent)

def names (r : Router) : List String :=
  Sorted.names r.agents

/-- The name of the agent that the policy or the default decides for. -/
def choice (r : Router) (message : String) : String :=
  ((r.policy message (r.agents.map fun e => e.2.config)).filter fun name =>
    (r.get? name).isSome).getD r.defaultAgent

/-- The agent for a message, and what is logged. -/
def select (r : Router) (message : String) (hint : Option String) :
    Except AgentError Agent × List LogLine :=
  let found (name : String) : Except AgentError Agent :=
    match r.get? name with
    | some agent => .ok agent
    | none => .error (.unknownAgent name)
  match hint with
  | some name => (found name, [])
  | none =>
    let name := r.choice message
    (found name, [⟨.debug, "Routed message", [("agent", name)]⟩])

end Router

namespace Agent

variable {σ : Type}

/-- The agent of a configuration, if it is valid among the services and tools that are there. -/
def buildChecked (tools : ToolRegistry σ) (services : ServiceRegistry σ) (c : AgentConfig) :
    Except ConfigProblem Agent :=
  match c.serviceProblem? (Sorted.names services) with
  | some p => .error p
  | none => build c tools

/-- The agents of configurations, sorted by name, or the problem of the first that has one. -/
def buildAll (configs : List AgentConfig) (tools : ToolRegistry σ) (services : ServiceRegistry σ) :
    Except ConfigProblem (List Agent) :=
  (configs.mergeSort fun a b => decide (¬ b.name < a.name)).mapM (buildChecked tools services)

end Agent

end HomeAgents
