import HomeAgents.Agent.Basic
import HomeAgents.Dispatch.State
import HomeAgents.Text.Quoted

/-!
# One model call

An agent asks its model for a reply. Work that is cancelled already asks for nothing; work that is
cancelled while it waits gives the call up, and so does an agent whose patience ends before the
reply is there. Every attempt leaves a trace if there is telemetry.
-/

namespace HomeAgents

variable {σ : Type}

namespace Agent

/-- The failure of a call that was cancelled. -/
def cancelledError (a : Agent) : AgentError :=
  .modelUnavailable a.name "cancelled"

/-- What an answer of the model is for the agent that waits for it. -/
def outcomeOf (a : Agent) (answer : Answer σ Completion) : Except AgentError String :=
  let reply : Except AgentError String :=
    match answer.value.reply with
    | .ok text => .ok text
    | .error e => .error (e.toAgentError a.name)
  match answer.value.waitMs with
  | none => reply
  | some ms =>
    if answer.cancels then .error a.cancelledError
    else if a.timeoutMs < ms then .error (ProviderError.timeout.toAgentError a.name)
    else reply

/-- Calls the model unless the work is cancelled. -/
def call (env : Environment σ) (a : Agent) (messages : List Message) (s : RunState σ) :
    Except AgentError String × RunState σ :=
  let s := (s.note (.attempt a.name messages)).look env
  if s.cancelled then (.error a.cancelledError, s)
  else
    let answer := (env.model a.name).complete messages a.params s.world
    (a.outcomeOf answer, (s.note (.modelCall a.name messages a.params)).absorb answer)

/-- The model an agent's calls go to. -/
def modelId (env : Environment σ) (a : Agent) : String :=
  a.config.model.getD (env.model a.name).defaultModel

def optionText : Option String → String
  | none => "None"
  | some s => "Some(" ++ Text.quoted s ++ ")"

/-- Stores the trace of an attempt that began at a moment. -/
def saveTrace (env : Environment σ) (a : Agent) (messages : List Message) (startedAt : Int)
    (outcome : Except AgentError String) (s : RunState σ) : RunState σ :=
  match s.telemetry with
  | none => s
  | some t =>
    let trace : Trace :=
      { id := t.freshId
        agent := a.name
        startedAt
        completedAt := env.now s.world
        provider := (env.model a.name).provider
        modelId := a.modelId env
        request := Message.listText messages
        response := outcome.toOption
        error := match outcome with
          | .ok _ => none
          | .error e => some e.message }
    let s := s.log .debug "LLM trace"
      [("agent", a.name), ("model", a.modelId env), ("error", optionText trace.error)]
    { s with telemetry := some (t.save trace) }

/-- Asks for one completion, logs how it went and stores its trace. -/
def complete (env : Environment σ) (a : Agent) (messages : List Message) (s : RunState σ) :
    Except AgentError String × RunState σ :=
  let startedAt := env.now s.world
  let (outcome, s) := a.call env messages s
  let s :=
    match outcome with
    | .ok text => s.log .info "model call completed"
        [("agent", a.name), ("model", a.modelId env), ("reply_len", toString text.utf8ByteSize)]
    | .error e => s.log .warn "model call failed"
        [("agent", a.name), ("model", a.modelId env), ("error", e.message)]
  (outcome, a.saveTrace env messages startedAt outcome s)

/-- Asks once for a reply to a message and gives it back as it is. -/
def run (env : Environment σ) (a : Agent) (message : String) (history : List Message)
    (situation : Option Situation) (s : RunState σ) : Except AgentError AgentResult × RunState σ :=
  let (outcome, s) := a.complete env (a.prepare message history situation (env.localTime s.world)) s
  (outcome.map (AgentResult.ofReply a.name), s)

end Agent

end HomeAgents
