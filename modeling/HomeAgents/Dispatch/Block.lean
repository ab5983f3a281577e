import HomeAgents.Agent.Builtin
import HomeAgents.Dispatch.Completion
import HomeAgents.Reply.Decode

/-!
# Carrying out blocks

The blocks of a reply are carried out one after the other. What the agent has not declared is
denied here, before anything reaches a tool or a service. A hand-over is only remembered; the
first one of a hop counts.
-/

namespace HomeAgents.Dispatch

variable {σ : Type}

/-- A hand-over that was asked for. -/
structure Handover where
  target : String
  message : String
  arguments : Members
deriving BEq, Repr, Inhabited

/-- How far the blocks of a reply have been carried out: the number of tool calls, the hand-over
asked for in this hop, and whether the rest was left out because the work was cancelled. -/
structure Progress where
  toolCalls : Nat
  handover : Option Handover
  stopped : Bool
deriving BEq, Repr, Inhabited

/-- The milliseconds between two states. -/
def elapsed (env : Environment σ) (before after : RunState σ) : Nat :=
  Time.elapsedMs (env.now before.world) (env.now after.world)

/-- What a run of a tool means for the action that asked for it. -/
def toolOutcome (tool : String) : Except ToolError String → Outcome
  | .ok output => .completed output
  | .error .cancelled => .failed .cancelled
  | .error e => .failed (.tool tool e.message)

/-- Notes a run of a tool that is going to happen. -/
def noteToolRun (env : Environment σ) (agent : Agent) (call : ToolCall) (s : RunState σ) :
    RunState σ :=
  if (env.tools.get? call.tool).isSome && !s.cancelled then
    s.note (.toolRun agent.name call.tool call.args)
  else s

def logToolFailure (agent : Agent) (tool : String) (result : Except ToolError String)
    (s : RunState σ) : RunState σ :=
  match result with
  | .ok _ => s
  | .error .cancelled => s
  | .error e =>
    s.log .warn "Tool failed" [("agent", agent.name), ("tool", tool), ("error", e.message)]

/-- Runs a tool the agent declares, unless the work has been cancelled since the call was begun. -/
def invokeTool (env : Environment σ) (agent : Agent) (call : ToolCall) (s : RunState σ) :
    Outcome × RunState σ :=
  let s := if (env.tools.get? call.tool).isSome then s.look env else s
  let answer := env.tools.invoke call.tool (.object call.args) ⟨agent.name, s.cancelled⟩ s.world
  (toolOutcome call.tool answer.value,
    logToolFailure agent call.tool answer.value ((noteToolRun env agent call s).absorb answer))

def runTool (env : Environment σ) (agent : Agent) (call : ToolCall) (s : RunState σ) :
    RunState σ :=
  let s₀ := s.emit (.actionStart agent.name .tool call.tool call.args)
  let (outcome, s) :=
    if agent.config.allowsTool call.tool then invokeTool env agent call s₀
    else
      (.failed (.capabilityDenied agent.name .tool call.tool),
        s₀.log .warn "Tool call denied"
          [("agent", agent.name), ("tool", call.tool),
            ("empty_toolset", if agent.config.tools.isEmpty then "true" else "false")])
  s.record env
    { agent := agent.name, kind := .tool, name := call.tool, service := none
      arguments := call.args, outcome, durationMs := elapsed env s₀ s }

/-- Calls a service of the agent's table. -/
def callService (env : Environment σ) (agent : Agent) (service : String) (command : Command)
    (s : RunState σ) : Outcome × RunState σ :=
  match env.services.get? service with
  | none => (.failed (.service service "not registered"), s)
  | some backend =>
    let answer := backend.call command.action command.params s.world
    let s := (s.note (.serviceCall agent.name service command.action command.params)).absorb answer
    match answer.value with
    | .ok response => (.completed response.text, s)
    | .error e =>
      (.failed (.service service e.message),
        s.log .warn "Service call failed"
          [("agent", agent.name), ("service", service), ("action", command.action),
            ("error", e.message)])

/-- Carries out a command that is no hand-over. -/
def runCommand (env : Environment σ) (agent : Agent) (command : Command) (s : RunState σ) :
    RunState σ :=
  let s₀ := s.emit (.actionStart agent.name .command command.action command.params)
  let service := agent.config.serviceFor command.action
  let (outcome, s) :=
    match service with
    | some service => callService env agent service command s₀
    | none =>
      (.failed (.capabilityDenied agent.name .command command.action),
        s₀.log .warn "Command not in agent's table"
          [("agent", agent.name), ("action", command.action)])
  s.record env
    { agent := agent.name, kind := .command, name := command.action, service
      arguments := command.params, outcome, durationMs := elapsed env s₀ s }

/-- A text among the parameters of a command. -/
def textParam? (command : Command) (name : String) : Option String :=
  (Sorted.find? name command.params).bind Json.asString?

/-- The agent a command wants to hand over to, the empty name if it says none. -/
def handoverTarget (command : Command) : String :=
  (textParam? command "agent").getD ""

/-- The hand-over a command asks for; without a message of its own it passes the present one on. -/
def handoverOf (command : Command) (message : String) : Handover where
  target := handoverTarget command
  message := ((textParam? command "message").filter fun m => !Text.isBlankText m).getD message
  arguments := command.params

def handoverAction (agent : Agent) (target : String) (arguments : Members) (outcome : Outcome) :
    Action where
  agent := agent.name
  kind := .delegation
  name := target
  service := none
  arguments := arguments
  outcome := outcome
  durationMs := 0

/-- Takes note of a hand-over, or denies it to an agent that may not hand over. -/
def requestHandover (env : Environment σ) (agent : Agent) (message : String) (command : Command)
    (p : Progress) (s : RunState σ) : Progress × RunState σ :=
  let target := handoverTarget command
  if agent.config.canNest then
    match p.handover with
    | none => ({ p with handover := some (handoverOf command message) }, s)
    | some _ =>
      (p, s.log .warn "Ignoring extra delegation in one reply"
        [("agent", agent.name), ("target", target)])
  else
    (p, (s.log .warn "Delegation denied: agent cannot nest"
        [("agent", agent.name), ("target", target)]).record env
      (handoverAction agent target command.params
        (.failed (.capabilityDenied agent.name .delegation target))))

def runBlock (env : Environment σ) (agent : Agent) (message : String) (p : Progress)
    (s : RunState σ) : Block → Progress × RunState σ
  | .toolCall call => ({ p with toolCalls := p.toolCalls + 1 }, runTool env agent call s)
  | .command command =>
    if command.action = Builtin.delegateAction then requestHandover env agent message command p s
    else (p, runCommand env agent command s)
  | .malformed _ => (p, s)

/-- Carries out blocks in order, passing malformed ones over, until the work is cancelled. -/
def runBlocks (env : Environment σ) (agent : Agent) (message : String) :
    List Block → Progress → RunState σ → Progress × RunState σ
  | [], p, s => (p, s)
  | .malformed _ :: rest, p, s => runBlocks env agent message rest p s
  | block :: rest, p, s =>
    let s := s.look env
    if s.cancelled then ({ p with stopped := true }, s)
    else
      let (p, s) := runBlock env agent message p s block
      runBlocks env agent message rest p s

end HomeAgents.Dispatch
