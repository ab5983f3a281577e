import HomeAgents.Files.Tree
import HomeAgents.Json.Fault
import HomeAgents.Yaml.Fault

/-!
# Faults of files

Why a file of the house cannot be used: it cannot be read, or it does not hold what it should.
-/

namespace HomeAgents

inductive FileFault where
  | bare (e : Files.IoError)
  | unreadable (path : String) (e : Files.IoError)
  | badYaml (path : String) (e : Yaml.Fault)
  | badSettings (path : String) (e : Yaml.Fault)
  | badJson (path text : String) (e : Json.Fault)
deriving Repr

namespace FileFault

/-- The wording of a fault without its cause. -/
def message : FileFault → String
  | bare e => e.message
  | unreadable path _ => "Failed to read " ++ path
  | badYaml path _ => "Failed to parse YAML in " ++ path
  | badSettings path e => "Invalid config " ++ path ++ ": " ++ e.message
  | badJson path _ _ => "Failed to parse " ++ path

/-- The wording of the cause of a fault, if it is not said already. -/
def cause? : FileFault → Option String
  | bare _ => none
  | unreadable _ e => some e.message
  | badYaml _ e => some e.message
  | badSettings _ _ => none
  | badJson _ text e => some (e.message text)

def fullMessage (f : FileFault) : String :=
  match f.cause? with
  | some cause => f.message ++ ": " ++ cause
  | none => f.message

end FileFault

end HomeAgents
