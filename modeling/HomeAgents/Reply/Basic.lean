import HomeAgents.Json.Basic

/-!
# Replies of a model

A reply is prose with protocol blocks in it. A block asks for an action of a service or for a run
of a tool, or it is malformed; then an error says where it stands, what it was meant to be and
what is wrong with it.
-/

namespace HomeAgents

/-- What a protocol block is meant to be. -/
inductive BlockKind where
  | command
  | toolCall
deriving DecidableEq, Repr, Inhabited

/-- The label that opens a block of a kind. -/
def BlockKind.label : BlockKind → String
  | command => "command"
  | toolCall => "tool_call"

/-- A request for an action of a service. -/
structure Command where
  action : String
  params : Members
deriving BEq, Repr, Inhabited

/-- A request for a run of a tool. -/
structure ToolCall where
  tool : String
  args : Members
deriving BEq, Repr, Inhabited

/-- A block that cannot be carried out. `index` counts the protocol blocks before it in its reply,
and `raw` is its text. -/
structure BlockError where
  index : Nat
  kind : BlockKind
  reason : String
  raw : String
deriving DecidableEq, Repr, Inhabited

def BlockError.message (e : BlockError) : String :=
  "malformed " ++ e.kind.label ++ " block #" ++ toString e.index ++ ": " ++ e.reason

/-- One protocol block. -/
inductive Block where
  | command (c : Command)
  | toolCall (c : ToolCall)
  | malformed (e : BlockError)
deriving BEq, Repr, Inhabited

/-- A reply taken apart: the prose without the blocks, and the blocks in order. -/
structure Reply where
  text : String
  blocks : List Block
deriving BEq, Repr, Inhabited

namespace Reply

def commands (r : Reply) : List Command :=
  r.blocks.filterMap fun
    | .command c => some c
    | _ => none

def toolCalls (r : Reply) : List ToolCall :=
  r.blocks.filterMap fun
    | .toolCall c => some c
    | _ => none

def errors (r : Reply) : List BlockError :=
  r.blocks.filterMap fun
    | .malformed e => some e
    | _ => none

/-- A reply without protocol blocks. -/
def isPlain (r : Reply) : Bool :=
  r.blocks.isEmpty

end Reply

end HomeAgents
