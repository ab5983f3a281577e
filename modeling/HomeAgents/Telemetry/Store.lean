import HomeAgents.Action.Basic
import HomeAgents.Json.Print
import HomeAgents.Time.Timestamp

/-!
# Telemetry

A record of model calls and actions that can be asked later. Rows hold texts: moments are stored as
timestamps, put in order as texts, and read back from them.
-/

namespace HomeAgents

/-- A model call: what was sent and what came back, a reply or the wording of a failure. -/
structure Trace where
  id : Nat
  agent : String
  startedAt : Int
  completedAt : Int
  provider : String
  modelId : String
  request : String
  response : Option String
  error : Option String
deriving DecidableEq, Repr, Inhabited

/-- How long the call took. -/
def Trace.latencyMs (t : Trace) : Nat :=
  Time.elapsedMs t.startedAt t.completedAt

/-- What is saved of a model call for a session. One that has not come to its end has no completion
and no latency. -/
structure TraceRecord where
  id : Nat
  session : Nat
  agent : String
  startedAt : Int
  completedAt : Option Int
  provider : String
  modelId : String
  request : String
  response : Option String
  latencyMs : Option UInt64
  error : Option String
deriving DecidableEq, Repr, Inhabited

def Trace.record (t : Trace) (session : Nat) : TraceRecord where
  id := t.id
  session := session
  agent := t.agent
  startedAt := t.startedAt
  completedAt := some t.completedAt
  provider := t.provider
  modelId := t.modelId
  request := t.request
  response := t.response
  latencyMs := some (.ofNat t.latencyMs)
  error := t.error

/-- A trace as it is stored. The columns for numbers have a sign. -/
structure TraceRow where
  id : Nat
  session : Nat
  agent : String
  startedAt : String
  completedAt : Option String
  provider : String
  modelId : String
  request : String
  response : Option String
  latencyMs : Option Int64
  error : Option String
deriving DecidableEq, Repr, Inhabited

def TraceRecord.row (r : TraceRecord) : TraceRow where
  id := r.id
  session := r.session
  agent := r.agent
  startedAt := Time.timestamp r.startedAt
  completedAt := r.completedAt.map Time.timestamp
  provider := r.provider
  modelId := r.modelId
  request := r.request
  response := r.response
  latencyMs := r.latencyMs.map (·.toInt64)
  error := r.error

/-- The record that a row holds, unless one of its timestamps cannot be read. -/
def TraceRow.record (r : TraceRow) : Except Time.TimestampFault TraceRecord := do
  let startedAt ← Time.ofTimestamp r.startedAt
  let completedAt ← r.completedAt.mapM Time.ofTimestamp
  return {
    id := r.id
    session := r.session
    agent := r.agent
    startedAt, completedAt
    provider := r.provider
    modelId := r.modelId
    request := r.request
    response := r.response
    latencyMs := r.latencyMs.map (·.toUInt64)
    error := r.error }

structure ActionRow where
  session : Nat
  timestamp : String
  agent : String
  kind : String
  name : String
  service : Option String
  arguments : String
  output : String
  isError : Bool
  durationMs : Nat
deriving DecidableEq, Repr, Inhabited

structure SessionRow where
  id : Nat
  startedAt : String
  model : Option String
  provider : Option String
deriving DecidableEq, Repr, Inhabited

/-- The stored rows, and the session that writes and asks now. -/
structure Telemetry where
  session : Nat
  sessions : List SessionRow
  traces : List TraceRow
  actions : List ActionRow
deriving DecidableEq, Repr, Inhabited

namespace Telemetry

/-- Begins a session on what is stored already. -/
def start (stored : Telemetry) (now : Int) (model provider : Option String) : Telemetry :=
  let id := stored.sessions.length
  { stored with
    session := id
    sessions := stored.sessions ++ [⟨id, Time.timestamp now, model, provider⟩] }

/-- A first session. -/
def new (now : Int) (model provider : Option String) : Telemetry :=
  start ⟨0, [], [], []⟩ now model provider

def row (t : Telemetry) (trace : Trace) : TraceRow :=
  (trace.record t.session).row

/-- Stores a record; one with the same number is replaced. -/
def saveRecord (t : Telemetry) (r : TraceRecord) : Telemetry :=
  { t with traces := (t.traces.filter fun stored => stored.id ≠ r.id) ++ [r.row] }

def save (t : Telemetry) (trace : Trace) : Telemetry :=
  t.saveRecord (trace.record t.session)

/-- A number no trace has. -/
def freshId (t : Telemetry) : Nat :=
  (t.traces.map (·.id)).foldl (fun n i => max n (i + 1)) 0

def recordAction (t : Telemetry) (now : Int) (a : Action) : Telemetry :=
  { t with
    actions := t.actions ++ [{
      session := t.session
      timestamp := Time.timestamp now
      agent := a.agent
      kind := a.kind.label
      name := a.name
      service := a.service
      arguments := (Json.object a.arguments).text
      output := a.outcome.text
      isError := !a.outcome.isOk
      durationMs := a.durationMs }] }

/-- The rows of the session's traces, the latest first. Rows with the same timestamp stay in the
order in which they were stored. -/
def latestRows (t : Telemetry) : List TraceRow :=
  (t.traces.filter fun r => r.session = t.session).mergeSort fun a b =>
    decide (¬ a.startedAt < b.startedAt)

/-- As many rows as a query is limited to. One below zero is no limit. -/
def limited (limit : Int64) (rows : List TraceRow) : List TraceRow :=
  if limit < 0 then rows else rows.take limit.toNatClampNeg

/-- The session's latest traces, the newest first, as many as asked for. -/
def recent (t : Telemetry) (limit : UInt64) : Except Time.TimestampFault (List TraceRecord) :=
  (limited limit.toInt64 t.latestRows).mapM (·.record)

/-- How many actions of a name succeeded in this session, and how many failed. -/
def actionCounts (t : Telemetry) (name : String) : Nat × Nat :=
  let rows := t.actions.filter fun r => r.session = t.session && r.name = name
  (rows.countP (!·.isError), rows.countP (·.isError))

end Telemetry

end HomeAgents
