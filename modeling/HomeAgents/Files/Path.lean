import HomeAgents.Files.Tree
import HomeAgents.Text.Split

/-!
# Paths

Where the text of a path leads in a tree: through directories, up by `..`, and through links, of
which at most 40 are followed. Every component but the last needs a directory to stand in, and so
do an empty last component and `.` or `..`. The place reached is given as the list of names from
the root.
-/

namespace HomeAgents.Files

/-- A place in a tree: the names on the way from its root, without links. -/
abbrev Place := List String

/-- The components of the text of a path; a slash at the beginning or end gives an empty one. -/
def components (path : String) : List String :=
  Text.splitAt '/' path

/-- A path that starts at the root. -/
def isAbsolute (path : String) : Bool :=
  path.toList.head? == some '/'

def placeText (place : Place) : String :=
  "/" ++ "/".intercalate place

/-- The most links that are followed on one way. -/
def maxLinks : Nat := 40

def maxNameBytes : Nat := 255

/-- The bytes of a path must be fewer. -/
def maxPathBytes : Nat := 4096

/-- A name that is too long to be looked up where it stands. -/
def tooLong (place : Place) (name : String) : Bool :=
  maxNameBytes < name.utf8ByteSize ||
    maxPathBytes ≤ (placeText (place ++ [name])).utf8ByteSize

/-- Follows components from a place, with some links still allowed. -/
def follow (tree : Node) (links : Nat) (place : Place) (todo : List String) :
    Except IoError Place :=
  match todo with
  | [] => .ok place
  | name :: rest =>
    match tree.at? place with
    | some (.directory entries) =>
      if name = "" ∨ name = "." then follow tree links place rest
      else if name = ".." then follow tree links place.dropLast rest
      else if tooLong place name then .error .nameTooLong
      else
        match Sorted.find? name entries with
        | none => .error .notFound
        | some (.link target) =>
          match links with
          | 0 => .error .tooManyLinks
          | links + 1 =>
            follow tree links (if isAbsolute target then [] else place) (components target ++ rest)
        | some _ => follow tree links (place ++ [name]) rest
    | _ => .error .notADirectory
termination_by (links, todo.length)

/-- The place an absolute path leads to. The empty path leads nowhere. -/
def resolve (tree : Node) (path : String) : Except IoError Place :=
  if path.toList.contains '\x00' then .error .nulByte
  else if path.isEmpty then .error .notFound
  else follow tree maxLinks [] (components path)

/-- A path as seen from a directory: an absolute path is its own, any other continues the
directory's. The empty directory adds nothing. -/
def joinPath (directory path : String) : String :=
  if isAbsolute path || directory.isEmpty then path
  else if directory.endsWith "/" then directory ++ path
  else directory ++ "/" ++ path

/-- What an absolute path leads to. -/
def nodeAt (tree : Node) (path : String) : Except IoError Node :=
  match resolve tree path with
  | .error e => .error e
  | .ok place =>
    match tree.at? place with
    | some node => .ok node
    | none => .error .notFound

def pathExists (tree : Node) (path : String) : Bool :=
  (nodeAt tree path).toOption.isSome

def isDirectory (tree : Node) (path : String) : Bool :=
  ((nodeAt tree path).toOption.map Node.isDirectory).getD false

def readBytes (tree : Node) (path : String) : Except IoError ByteArray :=
  match nodeAt tree path with
  | .error e => .error e
  | .ok (.file bytes) => .ok bytes
  | .ok _ => .error .isADirectory

def readText (tree : Node) (path : String) : Except IoError String :=
  match readBytes tree path with
  | .error e => .error e
  | .ok bytes =>
    match String.fromUTF8? bytes with
    | some text => .ok text
    | none => .error .notUtf8

end HomeAgents.Files
