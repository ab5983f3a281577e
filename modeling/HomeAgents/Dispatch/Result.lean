import HomeAgents.Action.Basic
import HomeAgents.Reply.Tag

/-!
# Results and events

What a dispatch comes to, and what it tells while it runs.
-/

namespace HomeAgents

/-- Why a dispatch stopped. -/
inductive StopReason where
  | textResponse
  | maxTurns
  | nestingLimitExceeded
  | cancelled
deriving DecidableEq, Repr, Inhabited

def StopReason.label : StopReason → String
  | textResponse => "text_response"
  | maxTurns => "max_turns"
  | nestingLimitExceeded => "nesting_limit_exceeded"
  | cancelled => "cancelled"

/-- What a dispatch tells while it runs. -/
inductive Event where
  | routed (agent : String) (hinted : Bool)
  | turnStart (agent : String) (depth : Nat)
  | modelReply (agent : String) (turn : Nat) (text : String)
  | actionStart (agent : String) (kind : ActionKind) (name : String) (arguments : Members)
  | actionEnd (agent : String) (kind : ActionKind) (name output : String) (isError : Bool)
  | parseError (agent message : String)
  | delegation (source target : String) (depth : Nat)
  | turnComplete (agent : String) (reason : StopReason)
  | error (agent message : String)
  | cancelled (agent : String)
deriving BEq, Repr, Inhabited

/-- What a dispatch comes to: the text for the user, the last reply as the model gave it, and
everything that was done on the way. -/
structure AgentResult where
  text : String
  rawText : String
  agentName : String
  actions : List Action
  parseErrors : List BlockError
  tags : List Tag
  turns : Nat
  delegationChain : List String
  stopReason : StopReason
deriving BEq, Repr, Inhabited

/-- The result of a single reply that nobody looks into. -/
def AgentResult.ofReply (agent reply : String) : AgentResult where
  text := reply
  rawText := reply
  agentName := agent
  actions := []
  parseErrors := []
  tags := Tag.ofText reply
  turns := 1
  delegationChain := [agent]
  stopReason := .textResponse

end HomeAgents
