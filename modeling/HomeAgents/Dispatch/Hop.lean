import HomeAgents.Action.Summary
import HomeAgents.Dispatch.Block
import HomeAgents.Session.Scratchpad

/-!
# The hop of one agent

One agent works on a message until it calls no more tools or has used up its turns. After a turn
with tool calls it is told what came of them.
-/

namespace HomeAgents.Dispatch

variable {σ : Type}

/-- What the hop of one agent comes to. `text` is its last prose that was not empty. -/
structure Hop where
  text : String
  rawText : String
  turns : Nat
  stopReason : StopReason
  handover : Option Handover
deriving BEq, Repr, Inhabited

def noteErrors (agent : Agent) (errors : List BlockError) (s : RunState σ) : RunState σ :=
  errors.foldl
    (fun s e =>
      let s := s.log .warn "Skipping malformed block"
        [("agent", agent.name), ("error", e.message), ("raw", e.raw)]
      let s := s.emit (.parseError agent.name e.message)
      { s with parseErrors := s.parseErrors ++ [e] })
    s

/-- Logs that the turns of an agent are used up, and that a hand-over is dropped for it. -/
def logMaxTurns (agent : Agent) (handover : Option Handover) (s : RunState σ) : RunState σ :=
  let s := s.log .warn "Tool loop hit max_turns"
    [("agent", agent.name), ("max_turns", toString agent.config.maxTurns)]
  match handover with
  | none => s
  | some h => s.log .warn "Dropping delegation after max_turns"
      [("agent", agent.name), ("target", h.target)]

/-- Runs turns of an agent; after this one `left` more are allowed. `text` is the last prose so
far, and `handover` the hand-over asked for so far. -/
def runTurns (env : Environment σ) (agent : Agent) (message : String) (left turn : Nat)
    (messages : List Message) (text : String) (handover : Option Handover) (s : RunState σ) :
    Except AgentError Hop × RunState σ :=
  match agent.complete env messages s with
  | (.error e, s) => (.error e, s)
  | (.ok reply, s) =>
    let s := s.emit (.modelReply agent.name turn reply)
    let parsed := Reply.parse reply
    let text := if parsed.text.isEmpty then text else parsed.text
    let s := noteErrors agent parsed.errors s
    let done := s.actions.length
    let (p, s) := runBlocks env agent message parsed.blocks ⟨0, handover, false⟩ s
    let hop (reason : StopReason) (handover : Option Handover) : Hop :=
      ⟨text, reply, turn, reason, handover⟩
    if p.stopped then
      (.ok (hop .cancelled none),
        s.log .info "Cancelled before all actions ran"
          [("agent", agent.name), ("turn", toString turn)])
    else if p.toolCalls = 0 then (.ok (hop .textResponse p.handover), s)
    else
      match left with
      | 0 => (.ok (hop .maxTurns none), logMaxTurns agent p.handover s)
      | left + 1 =>
        let results := Action.resultsMessage env.tools (s.actions.drop done)
        runTurns env agent message left (turn + 1)
          (messages ++ [.assistant reply, .user results]) text p.handover s

def runHop (env : Environment σ) (agent : Agent) (message : String) (pad : Scratchpad)
    (s : RunState σ) : Except AgentError Hop × RunState σ :=
  runTurns env agent message (agent.config.maxTurns - 1) 1
    (agent.prepare message pad.history (some pad.context) (env.localTime s.world)) "" none s

end HomeAgents.Dispatch
