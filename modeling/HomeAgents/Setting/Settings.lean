import HomeAgents.Log.Line
import HomeAgents.Provider.Credentials
import HomeAgents.Setting.Places
import HomeAgents.Yaml.Decode

/-!
# Settings

What a user may set in one file: the provider of models, the rules of dispatching, the telemetry,
and the folder of the file tools. Every setting has a default, and names that mean nothing are
passed over.
-/

namespace HomeAgents

structure ModelSettings where
  provider : String := "lm-studio"
  baseUrl : Option String := none
  model : Option String := none
  timeoutSecs : Nat := 60
deriving DecidableEq, Repr, Inhabited

structure DispatchSettings where
  defaultAgent : String := "conversation"
  maxDepth : Nat := 3
deriving DecidableEq, Repr, Inhabited

structure TelemetrySettings where
  logDir : String
  verbose : Bool := false
  exportEndpoint : Option String := none
deriving DecidableEq, Repr, Inhabited

structure Settings where
  llm : ModelSettings := {}
  dispatch : DispatchSettings := {}
  telemetry : TelemetrySettings
  designDir : String
deriving DecidableEq, Repr, Inhabited

namespace Settings

open Yaml

/-- The settings of somebody who has set nothing and works in a directory. -/
def initial (vars : EnvironmentVariables) (directory : String) : Settings where
  telemetry := { logDir := Places.logs vars }
  designDir := directory

def modelFields : List (Take.Field ModelSettings) :=
  [.of "provider" Take.text fun v s => { s with provider := v },
    .of "base_url" (Take.option Take.text) fun v s => { s with baseUrl := v },
    .of "model" (Take.option Take.text) fun v s => { s with model := v },
    .of "timeout_secs" (Take.natural (Nat.pow 2 64)) fun v s => { s with timeoutSecs := v }]

def dispatchFields : List (Take.Field DispatchSettings) :=
  [.of "default_agent" Take.text fun v s => { s with defaultAgent := v },
    .of "max_nesting_depth" (Take.natural (Nat.pow 2 64)) fun v s => { s with maxDepth := v }]

def telemetryFields : List (Take.Field TelemetrySettings) :=
  [.of "log_dir" Take.text fun v s => { s with logDir := v },
    .of "verbose" Take.bool fun v s => { s with verbose := v },
    .of "otel_endpoint" (Take.option Take.text) fun v s => { s with exportEndpoint := v }]

def toolFields : List (Take.Field String) :=
  [.of "design_dir" Take.text fun v _ => v]

/-- The parts of the settings; a part that is given begins with the defaults. -/
def fields (s : Settings) : List (Take.Field Settings) :=
  [.of "llm" (Take.record false modelFields s.llm) fun v s => { s with llm := v },
    .of "dispatch" (Take.record false dispatchFields s.dispatch) fun v s =>
      { s with dispatch := v },
    .of "telemetry" (Take.record false telemetryFields s.telemetry) fun v s =>
      { s with telemetry := v },
    .of "tools" (Take.record false toolFields s.designDir) fun v s => { s with designDir := v }]

/-- The settings that a text changes from others. -/
def ofText (s : Settings) (text : String) : Except Yaml.Fault Settings :=
  recordOfText false s.fields s text

/-- The settings that a file changes from others; without a file they stay. The path is seen from a
directory. -/
def load (s : Settings) (tree : Files.Node) (directory path : String) : Except FileFault Settings :=
  let place := Files.joinPath directory path
  if Files.pathExists tree place then
    match Files.readText tree place with
    | .error e => .error (.bare e)
    | .ok text => (s.ofText text).mapError (.badSettings path)
  else .ok s

/-- The time a model call may take, in seconds: never less than one. -/
def timeoutSecs (s : Settings) : Nat :=
  max s.llm.timeoutSecs 1

/-- A provider that nothing gives an address. -/
structure UnknownProvider where
  name : String
deriving DecidableEq, Repr, Inhabited

def UnknownProvider.message (p : UnknownProvider) : String :=
  "Unknown provider '" ++ p.name ++ "' and no base_url configured"

/-- The provider of the settings: one that is known, with what its credential says; one that has a
credential with an address; or one that the settings give an address. What the settings say comes
first. -/
def provider (s : Settings) (cs : Credentials) : Except UnknownProvider ProviderConfig :=
  let name := s.llm.provider
  let found : Except UnknownProvider ProviderConfig :=
    match ProviderConfig.preset? name with
    | some p => .ok (cs.apply p)
    | none =>
      match cs.customProvider? name, s.llm.baseUrl with
      | some p, _ => .ok p
      | none, some url => .ok (.custom name url none)
      | none, none => .error ⟨name⟩
  found.map fun p => p.withOverrides s.llm.baseUrl s.llm.model

/-- The credentials of a user, and what is logged if they cannot be used. -/
def credentials (tree : Files.Node) (vars : EnvironmentVariables) : Credentials × List LogLine :=
  match Places.credentialsFile? vars with
  | none => ([], [⟨.warn, "Ignoring auth.json",
      [("error", "Cannot determine data directory for auth.json")]⟩])
  | some path =>
    match Credentials.load tree path with
    | .ok cs => (cs, [])
    | .error e => ([], [⟨.warn, "Ignoring auth.json", [("error", e.fullMessage)]⟩])

end Settings

end HomeAgents
