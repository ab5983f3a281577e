import HomeAgents.Agent.Builtin
import HomeAgents.Agent.Override
import HomeAgents.Files.Directories
import HomeAgents.Setting.Fault

/-!
# The roster of agents

The agents there are: the built-in ones with the overrides from folders. A file `name.yaml` or
`name.yml` in a folder overrides the agent of that name, or defines a new one. Files of one folder
are taken in the order of their names, and those of later folders over those of earlier ones. A
file that cannot be used spoils the whole roster.
-/

namespace HomeAgents.Roster

open Files

/-- The overrides of each agent, the later ones last. -/
abbrev Layers := Ordered (List AgentOverride)

def addLayer (layers : Layers) (name : String) (o : AgentOverride) : Layers :=
  Ordered.insert name ((Ordered.find? name layers).getD [] ++ [o]) layers

/-- A file name taken apart at its last dot. A dot in front of the name counts as part of it. -/
def stemAndExtension (file : String) : String × Option String :=
  let back := file.toList.reverse
  let extension := back.takeWhile (· ≠ '.')
  match back.dropWhile (· ≠ '.') with
  | _ :: c :: stem => (String.ofList (c :: stem).reverse, some (String.ofList extension.reverse))
  | _ => (file, none)

/-- The name of the agent that a file is about. -/
def agentOfFile? (file : String) : Option String :=
  let (stem, extension) := stemAndExtension file
  if extension = some "yaml" ∨ extension = some "yml" then some stem else none

def loadOverride (tree : Node) (path : String) : Except FileFault AgentOverride :=
  match readText tree path with
  | .error e => .error (.unreadable path e)
  | .ok text => (AgentOverride.ofText text).mapError (.badYaml path)

def loadFiles (tree : Node) (folder : String) : List String → Layers → Except FileFault Layers
  | [], layers => .ok layers
  | file :: rest, layers =>
    match agentOfFile? file with
    | none => loadFiles tree folder rest layers
    | some name =>
      match loadOverride tree (joinPath folder file) with
      | .error e => .error e
      | .ok o => loadFiles tree folder rest (addLayer layers name o)

/-- Loads the overrides of several folders; one that is no directory has none. -/
def loadFolders (tree : Node) : List String → Layers → Except FileFault Layers
  | [], layers => .ok layers
  | folder :: rest, layers =>
    match loadFiles tree folder (namesIn tree folder) layers with
    | .error e => .error e
    | .ok layers => loadFolders tree rest layers

/-- The agents with overrides; an agent that was not there begins with the configuration of its
name. -/
def override (agents : Sorted AgentConfig) (layers : Layers) : Sorted AgentConfig :=
  layers.foldl
    (fun agents e =>
      let base := (Sorted.find? e.1 agents).getD (.new e.1)
      Sorted.insert e.1 (AgentOverride.applyAll e.1 e.2 base) agents)
    agents

def load (tree : Node) (folders : List String) : Except FileFault (Sorted AgentConfig) :=
  (loadFolders tree folders []).map (override Builtin.agents)

end HomeAgents.Roster
