import HomeAgents.Files.Path

/-!
# The sandbox of file tools

File tools are confined to a root directory. A path is followed first, links and all, and then the
place it leads to must be the place of the root or lie below it.
-/

namespace HomeAgents.House

open Files

/-- Why a path is refused. -/
inductive PathError where
  | notFound (path : String)
  | io (error : IoError)
  | noRoot (error : IoError)
  | outside (path : String)
deriving DecidableEq, Repr, Inhabited

def PathError.message : PathError → String
  | notFound path => "Not found: " ++ path
  | io e => "IO error: " ++ e.message
  | noRoot e => "Cannot resolve root directory: " ++ e.message
  | outside path => "Path is outside the allowed directory: " ++ path

/-- The absolute path that is asked for. -/
def requestedPath (root path : String) : String :=
  if path = "" ∨ path = "." then root else joinPath root path

/-- The place a path leads to, if it lies in the root. -/
def resolveInRoot (tree : Node) (root path : String) : Except PathError Place :=
  match resolve tree (requestedPath root path) with
  | .error .notFound => .error (.notFound path)
  | .error e => .error (.io e)
  | .ok place =>
    match resolve tree root with
    | .error e => .error (.noRoot e)
    | .ok rootPlace => if rootPlace.isPrefixOf place then .ok place else .error (.outside path)

end HomeAgents.House
