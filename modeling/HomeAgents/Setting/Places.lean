import HomeAgents.Collection.Ordered
import HomeAgents.Files.Path

/-!
# Places of files

Where the files of a user are looked for. The variables of the environment may name the folders of
settings and of data, with absolute paths; otherwise they lie in the home folder.
-/

namespace HomeAgents

/-- The variables of the environment by name. -/
abbrev EnvironmentVariables := Ordered String

namespace Places

open Files

/-- A folder that a variable names, or one in the home folder. -/
def folder? (vars : EnvironmentVariables) (name atHome : String) : Option String :=
  match (Ordered.find? name vars).filter isAbsolute with
  | some path => some path
  | none => ((Ordered.find? "HOME" vars).filter (!·.isEmpty)).map fun home => joinPath home atHome

def settings? (vars : EnvironmentVariables) : Option String :=
  (folder? vars "XDG_CONFIG_HOME" ".config").map fun f => joinPath f "bmo"

def data? (vars : EnvironmentVariables) : Option String :=
  (folder? vars "XDG_DATA_HOME" ".local/share").map fun f => joinPath f "bmo"

def settingsFile? (vars : EnvironmentVariables) : Option String :=
  (settings? vars).map fun f => joinPath f "config.yaml"

def credentialsFile? (vars : EnvironmentVariables) : Option String :=
  (data? vars).map fun f => joinPath f "auth.json"

def logs (vars : EnvironmentVariables) : String :=
  match data? vars with
  | some f => joinPath f "logs"
  | none => ".bmo_logs"

/-- The folders with overrides of agents: those of the user and then those of a project. -/
def overrideFolders (vars : EnvironmentVariables) (project : String) : List String :=
  ((settings? vars).map fun f => joinPath f "agents").toList ++
    [joinPath (joinPath project ".bmo") "agents"]

end Places

end HomeAgents
