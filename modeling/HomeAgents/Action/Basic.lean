import HomeAgents.Agent.Error

/-!
# Actions

What an agent did or tried to do: a run of a tool, an action of a service or a hand-over, with its
outcome.
-/

namespace HomeAgents

/-- What an action came to. -/
inductive Outcome where
  | completed (output : String)
  | failed (error : AgentError)
deriving DecidableEq, Repr, Inhabited

namespace Outcome

def isOk : Outcome → Bool
  | completed _ => true
  | failed _ => false

def error? : Outcome → Option AgentError
  | completed _ => none
  | failed e => some e

/-- The output, or the wording of the failure. -/
def text : Outcome → String
  | completed output => output
  | failed e => e.message

end Outcome

/-- An action that was tried. `name` is the tool, the action or the agent that was asked for, and
`service` is where a command went. -/
structure Action where
  agent : String
  kind : ActionKind
  name : String
  service : Option String
  arguments : Members
  outcome : Outcome
  durationMs : Nat
deriving BEq, Repr, Inhabited

def Action.failures (actions : List Action) : List Action :=
  actions.filter fun a => !a.outcome.isOk

end HomeAgents
