import HomeAgents.Glob.Match
import HomeAgents.House.ReadFile

/-!
# The listing tool

Lists a directory of the sandbox, and what lies below it if asked to, down to ten levels. The
entries of a directory come in the order of their names; those that begin with a dot are left out
with everything below them. A pattern picks files by name; directories are always shown.
-/

namespace HomeAgents.House

open Files Json

/-- The arguments of the listing tool. Nothing stands for an argument that is not given. -/
structure ListArgs where
  path : Option String := none
  pattern : Option (Option String) := none
  recursive : Option Bool := none

def listArguments : List (Argument ListArgs) :=
  [.of "path" [] false (·.path.isSome) Json.toText fun v a => { a with path := some v },
    .of "pattern" [] false (·.pattern.isSome) (Json.toOption Json.toText) fun v a =>
      { a with pattern := some v },
    .of "recursive" [] false (·.recursive.isSome) Json.toBool fun v a =>
      { a with recursive := some v }]

/-- The levels below the first that are listed. -/
def maxListDepth : Nat := 10

/-- The lines of a listing, and the places of the directories whose entries were looked at. -/
structure Listing where
  lines : List String
  opened : List Place
deriving DecidableEq, Repr, Inhabited

def Listing.append (a b : Listing) : Listing :=
  ⟨a.lines ++ b.lines, a.opened ++ b.opened⟩

def isHidden (name : String) : Bool :=
  name.toList.head? == some '.'

/-- The line of an entry, given the names from the listed directory to it. -/
def entryLine (depth : Nat) (names : List String) (isDir : Bool) : String :=
  "".pushn ' ' (2 * depth) ++ "/".intercalate names ++ (if isDir then "/" else "")

/-- The place that names lead to from another place, and the entries of the directory there. -/
def directoryAt? (tree : Node) (base : Place) (names : List String) :
    Option (Place × List (String × Node)) :=
  match follow tree maxLinks [] (base ++ names) with
  | .error _ => none
  | .ok place =>
    match tree.at? place with
    | some (.directory entries) => some (place, entries)
    | _ => none

/-- Whether a file with a name is shown. -/
def shows (pattern : Option (List Glob.Token)) (name : String) : Bool :=
  match pattern with
  | none => true
  | some tokens => Glob.accepts tokens name

/-- Lists the entries with the given names below `names`, with `deeper` more levels below them. -/
def listNames (tree : Node) (base : Place) (pattern : Option (List Glob.Token))
    (deeper depth : Nat) (names : List String) (entries : List String) : Listing :=
  match entries with
  | [] => ⟨[], []⟩
  | name :: rest =>
    let here : Listing :=
      if isHidden name then ⟨[], []⟩
      else
        let path := names ++ [name]
        match directoryAt? tree base path with
        | none => ⟨if shows pattern name then [entryLine depth path false] else [], []⟩
        | some (place, inside) =>
          let line := entryLine depth path true
          match deeper with
          | 0 => ⟨[line], []⟩
          | deeper + 1 =>
            Listing.append ⟨[line], [place]⟩
              (listNames tree base pattern deeper (depth + 1) path (orderedNames inside))
    here.append (listNames tree base pattern deeper depth names rest)
termination_by (deeper, entries.length)

/-- The whole output for a directory that is called `label`. -/
def listingText (label : String) (filtered : Bool) (lines : List String) : String :=
  let body :=
    if lines.isEmpty then [if filtered then "(no matches)" else "(empty directory)"] else lines
  "\n".intercalate (["# " ++ label ++ "/", ""] ++ body)

def listPlace (tree : Node) (place : Place) (pattern : Option (List Glob.Token))
    (recursive : Bool) (entries : List (String × Node)) : Listing :=
  Listing.append ⟨[], [place]⟩
    (listNames tree place pattern (if recursive then maxListDepth else 0) 0 []
      (orderedNames entries))

/-- Lists the directory at a path as seen from the root. -/
def listAt (tree : Node) (root path : String) (pattern : Option String) (recursive : Bool) :
    Except String (Listing × String) :=
  match resolveInRoot tree root path with
  | .error e => .error e.message
  | .ok place =>
    match tree.at? place with
    | some (.directory entries) =>
      let listed (tokens : Option (List Glob.Token)) : Listing × String :=
        let listing := listPlace tree place tokens recursive entries
        (listing,
          listingText (if path.isEmpty then "." else path) tokens.isSome listing.lines)
      match pattern with
      | none => .ok (listed none)
      | some p =>
        match Glob.read p with
        | .error e => .error ("Invalid pattern: " ++ e.message)
        | .ok tokens => .ok (listed (some tokens))
    | _ => .error ("Not a directory: " ++ path)

def executeList (tree : Node) (root : String) (args : Json) (ctx : ToolContext) : ToolResult :=
  if ctx.cancelled then .failure "Cancelled"
  else
    match takeArguments listArguments {} args with
    | .error m => .failure ("Invalid arguments: " ++ m.message)
    | .ok a =>
      match listAt tree root (a.path.getD "") (a.pattern.getD none) (a.recursive.getD false) with
      | .error e => .failure e
      | .ok (_, output) => .success output

/-- The listing tool, on a world with a file tree. -/
def listDirectory {σ : Type} (files : σ → Node) (root : String) : Tool σ where
  name := "list_directory"
  definition :=
    { name := "list_directory"
      description :=
        "List files and folders in the design folder. Accepts a glob pattern like '*.md' to " ++
        "filter files."
      parameters := argumentsSchema
        [("path", propertySchema "string"
            "Folder relative to the design folder (defaults to the folder itself)"),
          ("pattern", propertySchema "string"
            "Optional glob pattern to filter file names (e.g. '*.md', '[rs]*.md')"),
          ("recursive", propertySchema "boolean" "List files recursively (default: false)")] [] }
  execute args ctx world := .pure (executeList (files world) root args ctx) world
  humanize args result :=
    let path := shownPath args "."
    if result.isError then "failed to list `" ++ path ++ "`: " ++ result.output
    else "listed `" ++ path ++ "`\n" ++ result.output

/-- The tools of the house; file tools are confined to a root. -/
def tools {σ : Type} (clock : σ → Time.Local) (files : σ → Node) (root : String) :
    ToolRegistry σ :=
  .ofList [now clock, readFile files root, listDirectory files root]

end HomeAgents.House
