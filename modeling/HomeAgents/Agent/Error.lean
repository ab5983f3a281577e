import HomeAgents.Reply.Basic

/-!
# Failures

What can go wrong when a provider is asked for a completion, and what can go wrong in the work of an
agent. A provider's failure fails the whole turn; every other failure belongs to one action.
-/

namespace HomeAgents

/-- What an agent asks for: a run of a tool, an action of a service, or that another agent takes
over. -/
inductive ActionKind where
  | tool
  | command
  | delegation
deriving DecidableEq, Repr, Inhabited

def ActionKind.label : ActionKind → String
  | tool => "tool"
  | command => "command"
  | delegation => "delegation"

inductive ProviderError where
  | timeout
  | transport (reason : String)
  | rateLimited (retryAfter : Option Nat)
  | status (code : Nat) (body : String)
  | malformed (reason : String)
  | missingApiKey (name : String)
deriving DecidableEq, Repr, Inhabited

def ProviderError.label : ProviderError → String
  | timeout => "timeout"
  | transport _ => "transport"
  | rateLimited _ => "rate_limited"
  | status .. => "status"
  | malformed _ => "malformed"
  | missingApiKey _ => "missing_api_key"

def ProviderError.message : ProviderError → String
  | timeout => "request timed out"
  | transport reason => "transport error: " ++ reason
  | rateLimited _ => "rate limited"
  | status code body => "API error " ++ toString code ++ ": " ++ body
  | malformed reason => "malformed response: " ++ reason
  | missingApiKey name => name ++ " not found in environment or auth.json"

inductive AgentError where
  | modelUnavailable (agent reason : String)
  | rateLimited (agent : String) (retryAfter : Option Nat)
  | parse (error : BlockError)
  | capabilityDenied (agent : String) (kind : ActionKind) (name : String)
  | configuration (problem : String)
  | nestingLimitExceeded (depth limit : Nat)
  | unknownAgent (name : String)
  | tool (name reason : String)
  | service (name reason : String)
  | cancelled
deriving DecidableEq, Repr, Inhabited

namespace AgentError

def label : AgentError → String
  | modelUnavailable .. => "model_unavailable"
  | rateLimited .. => "rate_limited"
  | parse _ => "parse"
  | capabilityDenied .. => "capability_denied"
  | configuration _ => "configuration"
  | nestingLimitExceeded .. => "nesting_limit_exceeded"
  | unknownAgent _ => "unknown_agent"
  | tool .. => "tool"
  | service .. => "service"
  | cancelled => "cancelled"

def message : AgentError → String
  | modelUnavailable agent reason =>
    "model unavailable for agent '" ++ agent ++ "': " ++ reason
  | rateLimited agent _ => "model rate limited for agent '" ++ agent ++ "'"
  | parse error => error.message
  | capabilityDenied agent kind name =>
    "agent '" ++ agent ++ "' is not permitted to use " ++ kind.label ++ " '" ++ name ++ "'"
  | configuration problem => "configuration error: " ++ problem
  | nestingLimitExceeded depth limit =>
    "delegation depth " ++ toString depth ++ " exceeds limit " ++ toString limit
  | unknownAgent name => "unknown agent: " ++ name
  | tool name reason => "tool '" ++ name ++ "' failed: " ++ reason
  | service name reason => "service '" ++ name ++ "' failed: " ++ reason
  | cancelled => "cancelled"

/-- A failure of the model call, which fails the turn and not a single action. -/
def isTransport : AgentError → Bool
  | modelUnavailable .. => true
  | rateLimited .. => true
  | _ => false

end AgentError

/-- A provider's failure as the failure of the agent that asked. -/
def ProviderError.toAgentError (agent : String) : ProviderError → AgentError
  | rateLimited retryAfter => .rateLimited agent retryAfter
  | other => .modelUnavailable agent other.message

end HomeAgents
