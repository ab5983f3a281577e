import HomeAgents.Agent.Roster
import HomeAgents.CommandLine.Arguments
import HomeAgents.Dispatch.Basic
import HomeAgents.House.ListDirectory
import HomeAgents.Provider.Client
import HomeAgents.Setting.Settings
import HomeAgents.Telemetry.Folder

/-!
# Opening a household

Before a message is handled everything around it is set up: the settings with the options of the
command line over them, the agents, the folder of the telemetry, the model of the provider, the
tools of the house and a service for each name that agents or the house know. What goes wrong
first decides how it fails.
-/

namespace HomeAgents.CommandLine

/-- Where the program runs. -/
structure Surroundings where
  vars : EnvironmentVariables
  directory : String
  files : Files.Node
  session : SessionId

inductive Failure where
  | file (e : FileFault)
  | unknownAgent (name : String)
  | telemetry (e : Telemetry.FolderFault)
  | unknownProvider (e : Settings.UnknownProvider)
  | noKey (e : ProviderError)
  | agents (e : ConfigProblem)

def Failure.message : Failure → String
  | file e => e.message
  | unknownAgent name => "Unknown agent '" ++ name ++ "'. Run `bmo agents` to list them."
  | telemetry e => e.message
  | unknownProvider e => e.message
  | noKey e => e.message
  | agents e => e.toError.message

/-- The settings with options over them. -/
def withOptions (s : Settings) (o : Options) : Settings :=
  { s with
    llm := { s.llm with
      provider := (o.get? .provider).getD s.llm.provider
      baseUrl := (o.get? .baseUrl).or s.llm.baseUrl
      model := (o.get? .model).or s.llm.model }
    telemetry := { s.telemetry with verbose := o.verbose || s.telemetry.verbose } }

/-- The settings of a user with options over them. -/
def loadSettings (s : Surroundings) (o : Options) : Except Failure Settings :=
  let initial := Settings.initial s.vars s.directory
  let settings :=
    match (o.get? .config).or (Places.settingsFile? s.vars) with
    | some path => initial.load s.files s.directory path
    | none => .ok initial
  match settings with
  | .error e => .error (.file e)
  | .ok settings => .ok (withOptions settings o)

def loadAgents (s : Surroundings) : Except Failure (Sorted AgentConfig) :=
  (Roster.load s.files (Places.overrideFolders s.vars s.directory)).mapError .file

def houseServices : List String :=
  ["calendar", "music", "smart_home", "timers", "tv", "weather"]

/-- Adds an action to those of a service. -/
def addAction (m : Sorted (List String)) (command : String × String) : Sorted (List String) :=
  let actions := (Sorted.find? command.2 m).getD []
  Sorted.insert command.2
    (if actions.contains command.1 then actions else actions ++ [command.1]) m

/-- The actions of each service: those that agents document for it. -/
def serviceActions (agents : List AgentConfig) : Sorted (List String) :=
  (agents.flatMap (·.commands)).foldl addAction (Sorted.ofList (houseServices.map fun n => (n, [])))

/-- The services, which acknowledge the actions that agents document. -/
def services {σ : Type} (agents : List AgentConfig) : ServiceRegistry σ :=
  .ofList ((serviceActions agents).map fun e => .dryRun e.1 e.2)

/-- What the program gets to know of the outside at a moment: the time, and whether the user has it
stop, of which the journal so far is all that the user has seen. -/
structure Glimpse where
  time : Time.Local
  stops : List Entry → Bool := fun _ => false

/-- A moment in universal time at which nobody stops the program. -/
instance : Coe Int Glimpse := ⟨fun moment => { time := moment }⟩

/-- What the program needs from outside: what it gets to know there, and a way to the server of a
provider. -/
structure Outside (τ : Type) where
  glimpse : τ → Glimpse
  send : Http.Transport τ

/-- The world of a household: what is outside, and the files. -/
structure Premises (τ : Type) where
  outside : τ
  files : Files.Node

variable {τ : Type}

/-- The clock outside, in nanoseconds. -/
def Outside.now (o : Outside τ) (outside : τ) : Int :=
  (o.glimpse outside).time.moment

/-- The way to a server from the premises. -/
def Outside.sendFrom (o : Outside τ) : Http.Transport (Premises τ) := fun request p =>
  let answer := o.send request p.outside
  ⟨answer.value, answer.cancels, answer.logs, { p with outside := answer.world }⟩

/-- The client of the provider that the settings name. A server on this machine gets a key in any
case. -/
def openClient (s : Surroundings) (settings : Settings) (o : Outside τ) :
    Except Failure (Client (Premises τ)) :=
  match settings.provider (Settings.credentials s.files s.vars).1 with
  | .error e => .error (.unknownProvider e)
  | .ok provider =>
    match provider.findKey s.vars s.files s.directory with
    | .ok key => .ok ⟨provider, key, o.sendFrom⟩
    | .error e =>
      if provider.isLocal then .ok ⟨provider, "local", o.sendFrom⟩ else .error (.noKey e)

def toolRoot (s : Surroundings) (settings : Settings) : String :=
  if settings.designDir.isEmpty then "" else Files.joinPath s.directory settings.designDir

def openDispatcher (s : Surroundings) (settings : Settings) (agents : List AgentConfig)
    (o : Outside τ) : Except Failure (Dispatcher (Premises τ)) :=
  match openClient s settings o with
  | .error e => .error e
  | .ok client =>
    let env : Environment (Premises τ) :=
      { model := fun _ => client.model
        tools := House.tools (fun p => (o.glimpse p.outside).time) (·.files) (toolRoot s settings)
        services := services agents
        now := fun p => o.now p.outside
        offset := fun p => (o.glimpse p.outside).time.offset
        interrupts := fun p => (o.glimpse p.outside).stops }
    let built : Except ConfigProblem Router := do
      let agents ← Agent.buildAll agents env.tools env.services
      Router.withAgents settings.dispatch.defaultAgent
        (agents.map fun a => { a with timeoutMs := settings.timeoutSecs * 1000 })
    match built with
    | .error e => .error (.agents e)
    | .ok router => .ok ⟨env, router, settings.dispatch.maxDepth⟩

/-- A household that is ready for messages; `root` is the root of its file tools. -/
structure Household (τ : Type) where
  settings : Settings
  root : String
  dispatcher : Dispatcher (Premises τ)
  session : SessionId
  hint : Option String
  pad : Scratchpad
  telemetry : Telemetry
  world : Premises τ

def openHousehold (s : Surroundings) (settings : Settings) (agents : Sorted AgentConfig)
    (hint : Option String) (o : Outside τ) (outside : τ) : Except Failure (Household τ) :=
  match hint.filter fun name => !Sorted.has name agents with
  | some name => .error (.unknownAgent name)
  | none =>
    match Telemetry.openFolder s.files s.directory settings.telemetry.logDir (o.now outside)
        settings.llm.model (some settings.llm.provider) with
    | .error e => .error (.telemetry e)
    | .ok (telemetry, files) =>
      match openDispatcher { s with files } settings (agents.map (·.2)) o with
      | .error e => .error e
      | .ok dispatcher =>
        .ok {
          settings
          root := toolRoot s settings
          dispatcher
          session := s.session
          hint
          pad := .empty
          telemetry
          world := ⟨outside, files⟩ }

end HomeAgents.CommandLine
