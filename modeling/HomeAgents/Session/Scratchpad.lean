import HomeAgents.Agent.Prompt
import HomeAgents.Model.Message

/-!
# Scratchpads

What a session remembers: the messages exchanged so far, and what is known of the situation.
-/

namespace HomeAgents

/-- The memory of a session. -/
structure Scratchpad where
  history : List Message
  context : Situation
deriving BEq, Repr, Inhabited

namespace Scratchpad

def empty : Scratchpad := ⟨[], []⟩

def append (p : Scratchpad) (m : Message) : Scratchpad :=
  { p with history := p.history ++ [m] }

def appendTurn (p : Scratchpad) (user assistant : String) : Scratchpad :=
  { p with history := p.history ++ [.user user, .assistant assistant] }

def setContext (p : Scratchpad) (key : String) (value : Json) : Scratchpad :=
  { p with context := Ordered.insert key value p.context }

/-- Removes a value of the situation and gives it back. -/
def removeContext (p : Scratchpad) (key : String) : Option Json × Scratchpad :=
  (Ordered.find? key p.context, { p with context := Ordered.erase key p.context })

end Scratchpad

end HomeAgents
