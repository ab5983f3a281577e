import HomeAgents.Files.Path

/-!
# Making directories

A path of directories is made from its beginning: what is there already is entered, and what is
missing is made. Only a directory can be entered, also through links.
-/

namespace HomeAgents.Files

/-- What is at the end of a path, which the last component names in the directory before it. -/
def enter (tree : Node) (place : Place) (name : String) : Except IoError Place :=
  follow tree maxLinks place [name]

/-- Makes the missing directories of components from a place on. -/
def makeFrom (tree : Node) (place : Place) : List String → Except IoError Node
  | [] => .ok tree
  | name :: rest =>
    match enter tree place name with
    | .ok next =>
      match tree.at? next with
      | some (.directory _) => makeFrom tree next rest
      | _ => .error (if rest.all (·.isEmpty) then .exists_ else .notADirectory)
    | .error .notFound =>
      if (tree.at? (place ++ [name])).isSome then .error .exists_
      else makeFrom (Node.put .empty (place ++ [name]) tree) (place ++ [name]) rest
    | .error e => .error e

/-- Makes the directory of an absolute path and all that are missing on the way. -/
def makeDirectories (tree : Node) (path : String) : Except IoError Node :=
  if path.toList.contains '\x00' then .error .nulByte else makeFrom tree [] (components path)

/-- The names in the directory of an absolute path, in order. -/
def namesIn (tree : Node) (path : String) : List String :=
  match nodeAt tree path with
  | .ok (.directory entries) => orderedNames entries
  | _ => []

end HomeAgents.Files
