import HomeAgents.Session.Scratchpad

/-!
# Edits of scratchpads

Everything that can be done to the memory of a session from outside, as values.
-/

namespace HomeAgents

/-- A change of a scratchpad. -/
inductive ScratchpadEdit where
  | append (m : Message)
  | appendTurn (user assistant : String)
  | setContext (key : String) (value : Json)
  | removeContext (key : String)
  | clear
deriving BEq, Repr, Inhabited

namespace Scratchpad

/-- Makes a change. Only the removal of a value gives one back. -/
def edit (p : Scratchpad) : ScratchpadEdit → Option Json × Scratchpad
  | .append m => (none, p.append m)
  | .appendTurn user assistant => (none, p.appendTurn user assistant)
  | .setContext key value => (none, p.setContext key value)
  | .removeContext key => p.removeContext key
  | .clear => (none, empty)

end Scratchpad

end HomeAgents
