import HomeAgents.Json.Record
import HomeAgents.Reply.Segment
import HomeAgents.Text.Blank

/-!
# From bodies to blocks

The body of a block is the JSON text of a record: the name of the action or tool, and its
parameters or arguments, which may be left out.
-/

namespace HomeAgents.Reply

open Text

/-- What has been read of a request: its name and its members. -/
structure Request where
  name : Option String := none
  members : Option Members := none

/-- The record of a request, given the description and the two field names of its kind. -/
def requestRecord (limit : Nat) (title name members : String) : Json.Record Request where
  title := title
  fields := [
    .of name true (·.name.isSome) Json.readText fun s r => { r with name := some s },
    .of members false (·.members.isSome) (Json.readMap limit (Json.readValue limit)) fun ms r =>
      { r with members := some (Sorted.ofList ms) }]

def blockRecord (limit : Nat) : BlockKind → Json.Record Request
  | .command => requestRecord limit "struct Command" "action" "params"
  | .toolCall => requestRecord limit "struct ToolCall" "tool" "args"

def readRequest (kind : BlockKind) (body : List Char) : Except Json.Fault Request :=
  Json.readWhole (fun limit => (blockRecord limit kind).read limit {}) body

def Request.toBlock (r : Request) : BlockKind → Block
  | .command => .command ⟨r.name.getD "", r.members.getD []⟩
  | .toolCall => .toolCall ⟨r.name.getD "", r.members.getD []⟩

def decode (index : Nat) (kind : BlockKind) (body : List Char) : Block :=
  let malformed (reason : String) : Block := .malformed ⟨index, kind, reason, String.ofList body⟩
  let trimmed := trimChars body
  if trimmed.isEmpty then malformed "empty block"
  else
    match readRequest kind trimmed with
    | .ok r => r.toBlock kind
    | .error fault => malformed (fault.message (String.ofList trimmed))

def Passage.toBlock (index : Nat) (p : Passage) : Block :=
  if p.closed then decode index p.kind p.body
  else .malformed ⟨index, p.kind, "unterminated fence", String.ofList p.body⟩

/-- Takes a reply apart into its trimmed prose and its protocol blocks. -/
def parse (reply : String) : Reply :=
  let s := segment reply.toList
  ⟨String.ofList (trimChars s.prose), s.passages.mapIdx Passage.toBlock⟩

end HomeAgents.Reply
