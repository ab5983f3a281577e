import HomeAgents.Files.Directories
import HomeAgents.Telemetry.Store

/-!
# The folder of the telemetry

Telemetry is kept in a folder: a database for the rows, and for each day a file of log lines. The
folder is made if it is missing; a database is begun in an empty file, and nothing else that
stands in its place is touched.
-/

namespace HomeAgents.Telemetry

open Files

inductive FolderFault where
  | folder (e : IoError)
  | unreachable (database : String)
  | notADatabase
deriving DecidableEq, Repr

def FolderFault.message : FolderFault → String
  | folder e => e.message
  | unreachable database => "unable to open database file: " ++ database
  | notADatabase => "file is not a database"

def databaseName : String := "telemetry.db"

/-- The name of the log file of a moment's day. -/
def logName (now : Int) : String :=
  "bmo.log." ++ (Time.Civil.ofNanos now).dateText

/-- How a database begins. -/
def databaseHeader : String := "SQLite format 3\x00"

/-- The file of a name in a folder, in which something may be there already. -/
def fileIn? (tree : Node) (folder : Place) (name : String) : Option ByteArray :=
  match enter tree folder name with
  | .error _ => none
  | .ok place =>
    match tree.at? place with
    | some (.file bytes) => some bytes
    | _ => none

/-- Makes a file in a folder unless there is one of its name; nothing else may have that name. -/
def begin? (tree : Node) (folder : Place) (name : String) (beginning : ByteArray) : Option Node :=
  if (fileIn? tree folder name).isSome then some tree
  else if (tree.at? (folder ++ [name])).isSome then none
  else some (Node.put (.file beginning) (folder ++ [name]) tree)

/-- Whether a file with such bytes can hold the database. -/
def isDatabase (bytes : ByteArray) : Bool :=
  bytes.isEmpty || bytes.extract 0 16 == databaseHeader.toUTF8

/-- Opens the database of a folder at a place. -/
def openDatabase (tree : Node) (folder : Place) (shown : String) : Except FolderFault Node :=
  match begin? tree folder databaseName databaseHeader.toUTF8 with
  | none => .error (.unreachable shown)
  | some tree =>
    if ((fileIn? tree folder databaseName).map isDatabase).getD false then .ok tree
    else .error .notADatabase

/-- Opens the folder called `folder` as seen from a directory, and begins a session. -/
def openFolder (tree : Node) (directory folder : String) (now : Int)
    (model provider : Option String) : Except FolderFault (Telemetry × Node) := do
  let path := joinPath directory folder
  let tree ← if folder.isEmpty then .ok tree else (makeDirectories tree path).mapError .folder
  let place ← (resolve tree path).mapError .folder
  let tree ← openDatabase tree place (joinPath folder databaseName)
  return (new now model provider, (begin? tree place (logName now) .empty).getD tree)

end HomeAgents.Telemetry
