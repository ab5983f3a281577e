import HomeAgents.House.Now
import HomeAgents.House.Sandbox
import HomeAgents.Text.Lines

/-!
# The reading tool

Reads a text file of the sandbox, a page of its lines at a time. Lines are numbered from one and
cut at 2000 characters.
-/

namespace HomeAgents.House

open Files Json

/-- The arguments of the reading tool. Nothing stands for an argument that is not given. -/
structure ReadArgs where
  path : Option String := none
  offset : Option (Option Nat) := none
  limit : Option (Option Nat) := none

def readArguments : List (Argument ReadArgs) :=
  [.of "path" ["filePath"] true (·.path.isSome) Json.toText fun v a => { a with path := some v },
    .of "offset" ["start_line"] false (·.offset.isSome) (Json.toOption Json.toSize) fun v a =>
      { a with offset := some v },
    .of "limit" [] false (·.limit.isSome) (Json.toOption Json.toSize) fun v a =>
      { a with limit := some v }]

/-- The number of lines of a page unless something else is asked for. -/
def defaultPage : Nat := 2000

/-- The characters of a line that are shown. -/
def maxLineLength : Nat := 2000

/-- The bytes at the beginning of a file that are looked at for a zero. -/
def binaryCheckBytes : Nat := 8192

/-- A file with a zero byte at its beginning is no text. -/
def looksBinary (bytes : ByteArray) : Bool :=
  (bytes.extract 0 binaryCheckBytes).data.any (· == 0)

/-- A number right-aligned in six places. -/
def rightAligned (n : Nat) : String :=
  let digits := toString n
  "".pushn ' ' (6 - digits.length) ++ digits

/-- A line as it is shown. -/
def numberedLine (n : Nat) (line : List Char) : String :=
  rightAligned n ++ "\t" ++ String.ofList (line.take maxLineLength)

/-- Numbers lines from `n` on. -/
def numberLines (n : Nat) : List (List Char) → List String
  | [] => []
  | l :: ls => numberedLine n l :: numberLines (n + 1) ls

/-- The lines of a page: `limit` lines from the line `offset` on, where zero means the first line
too. -/
def page (content : String) (offset limit : Nat) : List String :=
  let skipped := offset - 1
  numberLines (skipped + 1) (((Text.lineChars content.toList).drop skipped).take limit)

/-- Reads a page of the file at a path as seen from the root. -/
def readPage (tree : Node) (root path : String) (offset limit : Nat) : Except String String :=
  match resolveInRoot tree root path with
  | .error e => .error e.message
  | .ok place =>
    match tree.at? place with
    | some (.file bytes) =>
      if looksBinary bytes then .error ("Binary file cannot be read as text: " ++ path)
      else
        match String.fromUTF8? bytes with
        | none => .error ("Failed to read file: " ++ IoError.notUtf8.message)
        | some content =>
          if content.isEmpty then .ok "Warning: File exists but has empty contents"
          else .ok ("\n".intercalate (page content offset limit))
    | _ => .error ("Not a file: " ++ path)

/-- The path among arguments as summaries show it. -/
def shownPath (args : Json) (otherwise : String) : String :=
  ((args.get? "path").bind Json.asString?).getD otherwise

def executeRead (tree : Node) (root : String) (args : Json) (ctx : ToolContext) : ToolResult :=
  match takeArguments readArguments {} args with
  | .error m => .failure ("Invalid arguments: " ++ m.message)
  | .ok a =>
    if ctx.cancelled then .failure "Cancelled"
    else
      match readPage tree root (a.path.getD "") ((a.offset.getD none).getD 1)
          ((a.limit.getD none).getD defaultPage) with
      | .error e => .failure e
      | .ok output => .success output

/-- The reading tool, on a world with a file tree. -/
def readFile {σ : Type} (files : σ → Node) (root : String) : Tool σ where
  name := "read_file"
  definition :=
    { name := "read_file"
      description :=
        "Read a text file from the design folder. Returns numbered lines; use offset and " ++
        "limit for long files."
      parameters := argumentsSchema
        [("path", propertySchema "string" "Path relative to the design folder"),
          ("offset",
            propertySchema "integer" "Line number to start reading from (1-indexed, optional)"),
          ("limit",
            propertySchema "integer" "Maximum number of lines to read (optional, default 2000)")]
        ["path"] }
  execute args ctx world := .pure (executeRead (files world) root args ctx) world
  humanize args result :=
    let path := shownPath args "?"
    if result.isError then "failed to read `" ++ path ++ "`: " ++ result.output
    else
      "read `" ++ path ++ "` (" ++ toString (Text.lines result.output).length ++ " lines)\n" ++
        result.output

end HomeAgents.House
