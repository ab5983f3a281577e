import HomeAgents.Collection.Sorted

/-!
# File trees

Directories, files and symbolic links. A directory has its entries in any order, and a link has the
text of a path.
-/

namespace HomeAgents.Files

/-- A file tree. -/
inductive Node where
  | file (bytes : ByteArray)
  | directory (entries : List (String × Node))
  | link (target : String)
deriving Inhabited

/-- Why a file cannot be used. -/
inductive IoError where
  | notFound
  | exists_
  | notADirectory
  | isADirectory
  | nameTooLong
  | tooManyLinks
  | nulByte
  | notUtf8
deriving DecidableEq, Repr, Inhabited

def IoError.message : IoError → String
  | notFound => "No such file or directory (os error 2)"
  | exists_ => "File exists (os error 17)"
  | notADirectory => "Not a directory (os error 20)"
  | isADirectory => "Is a directory (os error 21)"
  | nameTooLong => "File name too long (os error 36)"
  | tooManyLinks => "Too many levels of symbolic links (os error 40)"
  | nulByte => "file name contained an unexpected NUL byte"
  | notUtf8 => "stream did not contain valid UTF-8"

/-- The names of entries, in order. -/
def orderedNames (entries : List (String × Node)) : List String :=
  Sorted.names (Sorted.byName entries)

namespace Node

def entries? : Node → Option (List (String × Node))
  | directory entries => some entries
  | _ => none

def isDirectory : Node → Bool
  | directory _ => true
  | _ => false

def isFile : Node → Bool
  | file _ => true
  | _ => false

/-- The node under names that are followed one after the other; links are not followed. -/
def at? : Node → List String → Option Node
  | node, [] => some node
  | directory entries, name :: names =>
    match Sorted.find? name entries with
    | some node => node.at? names
    | none => none
  | _, _ :: _ => none

def empty : Node := directory []

/-- Puts a node under names, making the directories on the way. What stands in the way is
replaced. -/
def put (node : Node) : List String → Node → Node
  | [], _ => node
  | name :: names, tree =>
    let entries := tree.entries?.getD []
    directory (Sorted.insert name (put node names ((Sorted.find? name entries).getD empty)) entries)

end Node

end HomeAgents.Files
