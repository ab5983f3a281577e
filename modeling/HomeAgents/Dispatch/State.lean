import HomeAgents.Dispatch.Result
import HomeAgents.Model.Basic
import HomeAgents.Service.Basic
import HomeAgents.Telemetry.Store
import HomeAgents.Tool.Basic

/-!
# The state of a dispatch

A dispatch runs in an environment of backends and changes one state: the world of the backends,
whether the work was cancelled, the journal of everything that happened in its order, what was
done so far, and the telemetry. Nothing is ever taken out of the journal, and what is cancelled
stays so. The work is cancelled by a backend while its answer is awaited, or from outside at any
moment; the latter is noticed when the work is about to go on.
-/

namespace HomeAgents

/-- Something that happened. An attempt is a completion an agent asks for, whether or not the
model is called for it; `cancelled` marks the moment at which the work was cancelled. -/
inductive Entry where
  | event (e : Event)
  | attempt (agent : String) (messages : List Message)
  | modelCall (agent : String) (messages : List Message) (params : CompletionParams)
  | toolRun (agent tool : String) (args : Members)
  | serviceCall (agent service action : String) (params : Members)
  | cancelled
  | log (line : LogLine)
deriving BEq, Repr, Inhabited

/-- What surrounds a dispatch: the model of each agent, the tools and services, the clock of their
world in nanoseconds, by how many seconds the local time is ahead, and whether somebody who follows
the journal has cancelled the work by now. -/
structure Environment (σ : Type) where
  model : String → ChatModel σ
  tools : ToolRegistry σ
  services : ServiceRegistry σ
  now : σ → Int
  offset : σ → Int := fun _ => 0
  interrupts : σ → List Entry → Bool := fun _ _ => false

def Environment.localTime {σ : Type} (env : Environment σ) (world : σ) : Time.Local :=
  ⟨env.now world, env.offset world⟩

/-- The state of a dispatch. -/
structure RunState (σ : Type) where
  world : σ
  cancelled : Bool
  journal : List Entry
  actions : List Action
  parseErrors : List BlockError
  telemetry : Option Telemetry

namespace RunState

variable {σ α : Type}

def start (world : σ) (cancelled : Bool) (telemetry : Option Telemetry) : RunState σ :=
  ⟨world, cancelled, [], [], [], telemetry⟩

/-- Writes an entry into the journal. -/
def note (s : RunState σ) (e : Entry) : RunState σ :=
  { s with journal := s.journal ++ [e] }

def emit (s : RunState σ) (e : Event) : RunState σ :=
  s.note (.event e)

def log (s : RunState σ) (level : LogLevel) (message : String) (fields : List (String × String)) :
    RunState σ :=
  s.note (.log ⟨level, message, fields⟩)

/-- Takes over what a backend's answer left behind. -/
def absorb (s : RunState σ) (a : Answer σ α) : RunState σ :=
  { s with
    world := a.world
    cancelled := s.cancelled || a.cancels
    journal := s.journal ++ a.logs.map .log ++
      (if a.cancels && !s.cancelled then [.cancelled] else []) }

/-- Whether the work has been cancelled from outside, and nobody has noticed so far. -/
def interrupted (env : Environment σ) (s : RunState σ) : Bool :=
  !s.cancelled && env.interrupts s.world s.journal

/-- Looks whether the work has been cancelled from outside. -/
def look (env : Environment σ) (s : RunState σ) : RunState σ :=
  if s.interrupted env then
    { s with cancelled := true, journal := s.journal ++ [.cancelled] }
  else s

def record (env : Environment σ) (a : Action) (s : RunState σ) : RunState σ :=
  let s := s.emit (.actionEnd a.agent a.kind a.name a.outcome.text (!a.outcome.isOk))
  { s with
    actions := s.actions ++ [a]
    telemetry := s.telemetry.map fun t => t.recordAction (env.now s.world) a }

def events (s : RunState σ) : List Event :=
  s.journal.filterMap fun
    | .event e => some e
    | _ => none

def logLines (s : RunState σ) : List LogLine :=
  s.journal.filterMap fun
    | .log l => some l
    | _ => none

end RunState

end HomeAgents
