import HomeAgents.CommandLine.Program
import HomeAgents.CommandLine.Replay
import HomeAgents.Http.Wire
import Std.Async.DNS
import Std.Async.TCP
import Std.Time.Zoned

/-!
# The command line

The outer layer: it reads variables, files and lines, sends requests and prints. Files are those
with known names, the overrides of agents with known names, and what tool calls ask for. Requests
go over plain connections, and telemetry ends with the program.
-/

open HomeAgents CommandLine Http Std.Net Std.Async

namespace HomeAgents.Main

def print (ps : List Print) : IO Unit := do
  for p in ps do
    match p with
    | .out text => IO.print text
    | .remark text => IO.eprint text
  (← IO.getStdout).flush

/-- The clock. Where the zone is not known the local time is universal time. -/
def clock : IO Time.Local := do
  let now ← Std.Time.Timestamp.now
  let offset ← try
      let rules ← Std.Time.Database.defaultGetLocalZoneRules
      pure (rules.timezoneAt now).offset.second.val
    catch _ => pure 0
  return ⟨now.toNanosecondsSinceUnixEpoch.val, offset⟩

/-- Adds the file at an absolute path to a tree, if it can be read. -/
def addFile (tree : Files.Node) (path : String) : IO Files.Node := do
  try
    let bytes ← IO.FS.readBinFile path
    return .put (.file bytes) ((Files.components path).filter fun n => n ≠ "" && n ≠ ".") tree
  catch _ => return tree

def addDirectory (tree : Files.Node) (path : String) : Files.Node :=
  (Files.makeDirectories tree path).toOption.getD tree

def addVariables (vars : EnvironmentVariables) (names : List String) : IO EnvironmentVariables :=
  names.foldlM
    (fun vars name => do
      match ← IO.getEnv name with
      | some value => return Ordered.insert name value vars
      | none => return vars)
    vars

/-- The directories on the way to one, and the one itself. -/
def waysTo (directory : String) : List String :=
  let names := (Files.components directory).filter (!·.isEmpty)
  (List.range (names.length + 1)).map fun n => Files.placeText (names.take n)

/-- The files that a run may need before anything is asked. -/
def neededFiles (vars : EnvironmentVariables) (directory : String) (a : Arguments) : List String :=
  let named := (a.options.get? .agent).toList ++ match a.command with
    | .agents name => name.toList
    | _ => []
  ((a.options.get? .config).map (Files.joinPath directory)).toList ++
    (Places.settingsFile? vars).toList ++ (Places.credentialsFile? vars).toList ++
    (waysTo directory).map (Files.joinPath · ".env") ++
    (Places.overrideFolders vars directory).flatMap fun folder =>
      (Sorted.names Builtin.agents ++ named).flatMap fun name =>
        [".yaml", ".yml"].map fun extension => Files.joinPath folder (name ++ extension)

/-- Where the program runs, as far as it has to be known. -/
def surroundings (a : Arguments) : IO Surroundings := do
  let directory := (← IO.currentDir).toString
  let vars ← addVariables [] ["HOME", "XDG_CONFIG_HOME", "XDG_DATA_HOME"]
  let files ← (neededFiles vars directory a).foldlM addFile (addDirectory .empty directory)
  let random ← IO.getRandomBytes 16
  let session := random.foldl (fun n b => 256 * n + b.toNat) 0
  let s : Surroundings := ⟨vars, directory, files, session⟩
  match loadSettings s a.options with
  | .error _ => return s
  | .ok settings =>
    let files := addDirectory files (toolRoot s settings)
    match settings.provider (Settings.credentials files vars).1 with
    | .error _ => return { s with files }
    | .ok provider => return { s with files, vars := ← addVariables vars [provider.apiKeyEnv] }

def addressesOf (host : Http.Host) : IO (List IPAddr) :=
  match host with
  | .machine n =>
    let byte (i : Nat) : UInt8 := UInt8.ofNat (n / Nat.pow 256 i % 256)
    return [.v4 (.ofParts (byte 3) (byte 2) (byte 1) (byte 0))]
  | .longMachine pieces =>
    return [.v6 ⟨Vector.ofFn fun i => UInt16.ofNat (pieces.getD i 0)⟩]
  | .name s => return (← (DNS.getAddrInfo s "").block).toList

def socketAddress (address : IPAddr) (port : Nat) : SocketAddress :=
  match address with
  | .v4 a => .v4 ⟨a, UInt16.ofNat port⟩
  | .v6 a => .v6 ⟨a, UInt16.ofNat port⟩

/-- Sends bytes to an address and collects what comes back. -/
def converseWith (address : SocketAddress) (bytes : ByteArray) : IO ByteArray := do
  let client ← TCP.Socket.Client.mk
  (client.connect address).block
  (client.send bytes).block
  let mut all := ByteArray.empty
  repeat
    match ← (client.recv? 65536).block with
    | some more => all := all ++ more
    | none => break
  return all

def exchange (r : Http.Request) : IO (Option Http.Reply) := do
  match r.url.site with
  | none => return none
  | some site =>
    if r.url.scheme ≠ "http" then return none
    else
      try
        for address in (← addressesOf site.host).take 1 do
          let bytes ← converseWith (socketAddress address (site.port.getD 80)) r.wire
          return Http.Reply.ofBytes? 8 bytes.toList
        return none
      catch _ => return none

/-- Lets a household work, and sends the requests that it has. -/
def work {α : Type} (h : Household Known) (act : Household Known → α × Household Known) :
    IO (α × Household Known) := do
  let mut replies : List (Option Http.Reply) := []
  let mut files := h.world.files
  repeat
    let ready := { h with world := { h.world with files } }
    let (value, next) := act (ready.knowing replies (← clock))
    match next.world.outside.wanted with
    | none => return (value, next)
    | some request =>
      let reply ← exchange request
      for path in pathsIn reply do
        files ← addFile files (Files.joinPath h.root path)
      replies := replies ++ [reply]
  return act (h.knowing replies (0 : Int))

def converse (first : Household Known) : IO Unit := do
  let input ← IO.getStdin
  let mut h := first
  repeat
    print [invitation]
    let line ← input.getLine
    if line.isEmpty then
      print [farewell]
      break
    let (prints, next) ← work h fun h =>
      match h.hear ((Text.lines line).headD "") with
      | (prints, some next) => ((prints, false), next)
      | (prints, none) => ((prints, true), h)
    print prints.1
    h := next
    if prints.2 then break

/-- Carries out what is left to do. -/
def carry : Plan Known → IO Unit
  | .told prints => print prints
  | .ask h message => do
    print h.heading
    print (← work h fun h => h.ask message).1
  | .converse h => do
    print (h.heading ++ h.greeting)
    converse h

end HomeAgents.Main

def main (words : List String) : IO UInt32 := do
  match Arguments.ofWords words with
  | .error r =>
    HomeAgents.Main.print [refusalPrint r]
    return UInt32.ofNat (Ending.refused r).code
  | .ok a =>
    let s ← HomeAgents.Main.surroundings a
    match start s a Known.outside ⟨[], none, ← HomeAgents.Main.clock⟩ with
    | .error e =>
      HomeAgents.Main.print [failureRemark e]
      return UInt32.ofNat (Ending.failed e).code
    | .ok task =>
      HomeAgents.Main.carry task
      return 0
