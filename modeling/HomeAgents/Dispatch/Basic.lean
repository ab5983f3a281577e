import HomeAgents.Dispatch.Hop
import HomeAgents.Routing.Router

/-!
# Dispatching a message

A message is routed to an agent, which may hand over to another one, and so on up to a depth. Only
a dispatch that succeeds and was not cancelled is remembered: the message of the user and the
final text.
-/

namespace HomeAgents

variable {σ : Type}

/-- A router with its environment, and how deep hand-overs may go. -/
structure Dispatcher (σ : Type) where
  env : Environment σ
  router : Router
  maxDepth : Nat

namespace Dispatch

/-- The depth to which hand-overs may go unless something else is said. -/
def defaultMaxDepth : Nat := 3

/-- Where the chain of hops stands: the agent at work, its message, the turns taken before and the
names of the agents so far. -/
structure Chain where
  agent : Agent
  message : String
  turns : Nat
  names : List String
deriving DecidableEq, Repr, Inhabited

/-- The last hop of a dispatch, where it took place and why the dispatch stopped. -/
structure Ending where
  hop : Hop
  chain : Chain
  turns : Nat
  reason : StopReason
deriving BEq, Repr, Inhabited

/-- Refuses a hand-over that would go too deep. -/
def refuseHandover (env : Environment σ) (agent : Agent) (h : Handover) (depth limit : Nat)
    (s : RunState σ) : RunState σ :=
  (s.log .warn "Delegation refused: nesting limit"
      [("agent", agent.name), ("target", h.target), ("depth", toString depth),
        ("limit", toString limit)]).record env
    (handoverAction agent h.target h.arguments (.failed (.nestingLimitExceeded depth limit)))

def followHandover (env : Environment σ) (agent next : Agent) (h : Handover) (depth : Nat)
    (s : RunState σ) : RunState σ :=
  let s := s.log .info "Delegating"
    [("from", agent.name), ("to", next.name), ("depth", toString depth)]
  let s := s.emit (.delegation agent.name next.name depth)
  s.record env
    (handoverAction agent h.target h.arguments (.completed ("delegated to " ++ next.name)))

/-- Fails a hand-over to an agent that is not there. -/
def failHandover (env : Environment σ) (agent : Agent) (h : Handover) (s : RunState σ) :
    RunState σ :=
  (s.log .warn "Delegation to unknown agent"
      [("agent", agent.name), ("target", h.target)]).record env
    (handoverAction agent h.target h.arguments (.failed (.unknownAgent h.target)))

/-- Runs hops from `depth` on; `room` more may follow before the greatest depth is reached. -/
def runHops (d : Dispatcher σ) (pad : Scratchpad) (room depth : Nat) (chain : Chain)
    (s : RunState σ) : Except AgentError Ending × RunState σ :=
  let agent := chain.agent
  let s := s.emit (.turnStart agent.name depth)
  match runHop d.env agent chain.message pad s with
  | (.error e, s) => (.error e, s.emit (.error agent.name e.message))
  | (.ok hop, s) =>
    let turns := chain.turns + hop.turns
    let s := s.emit (.turnComplete agent.name hop.stopReason)
    let ending (reason : StopReason) : Except AgentError Ending := .ok ⟨hop, chain, turns, reason⟩
    match hop.stopReason, hop.handover with
    | .textResponse, some h =>
      let limit := min d.maxDepth agent.config.maxTurns
      let s := s.look d.env
      if s.cancelled then (ending .cancelled, s)
      else if limit < depth + 1 then
        (ending .nestingLimitExceeded, refuseHandover d.env agent h (depth + 1) limit s)
      else
        match d.router.get? h.target, room with
        | some next, room + 1 =>
          runHops d pad room (depth + 1) ⟨next, h.message, turns, chain.names ++ [next.name]⟩
            (followHandover d.env agent next h (depth + 1) s)
        | _, _ => (ending .textResponse, failHandover d.env agent h s)
    | reason, _ => (ending reason, s)

def Ending.result (e : Ending) (s : RunState σ) : AgentResult where
  text := e.hop.text
  rawText := e.hop.rawText
  agentName := e.chain.agent.name
  actions := s.actions
  parseErrors := s.parseErrors
  tags := Tag.ofText e.hop.text
  turns := e.turns
  delegationChain := e.chain.names
  stopReason := e.reason

/-- The scratchpad after a dispatch of a message with a result. -/
def remember (pad : Scratchpad) (message : String) (result : AgentResult) : Scratchpad :=
  if result.stopReason = .cancelled then pad else pad.appendTurn message result.text

def logResult (result : AgentResult) (s : RunState σ) : RunState σ :=
  s.log .info "Dispatch complete"
    [("agent", result.agentName), ("turns", toString result.turns),
      ("actions", toString result.actions.length),
      ("failed_actions", toString (Action.failures result.actions).length),
      ("parse_errors", toString result.parseErrors.length),
      ("stop_reason", result.stopReason.label)]

end Dispatch

namespace Dispatcher

open Dispatch

/-- What a dispatch leaves behind: its result or failure, the scratchpad and the state. -/
structure Report (σ : Type) where
  outcome : Except AgentError AgentResult
  pad : Scratchpad
  state : RunState σ

/-- Routes, runs and remembers one message of the user. -/
def handle (d : Dispatcher σ) (pad : Scratchpad) (message : String) (hint : Option String)
    (s : RunState σ) : Report σ :=
  let (selected, lines) := d.router.select message hint
  let s := { s with journal := s.journal ++ lines.map .log }
  match selected with
  | .error e => ⟨.error e, pad, s⟩
  | .ok agent =>
    let s := s.emit (.routed agent.name hint.isSome)
    match runHops d pad d.maxDepth 0 ⟨agent, message, 0, [agent.name]⟩ s with
    | (.error e, s) => ⟨.error e, pad, s⟩
    | (.ok ending, s) =>
      let s :=
        if ending.reason = .cancelled then s.emit (.cancelled ending.chain.agent.name) else s
      let result := ending.result s
      ⟨.ok result, remember pad message result, logResult result s⟩

end Dispatcher

end HomeAgents
