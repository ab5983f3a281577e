import HomeAgents.Log.Line

/-!
# Answers of backends

Models, tools and services act on a world that the program does not look into: its type `σ` stays
open everywhere. A call gives a value, may cancel the work it is part of, and leaves a world
behind.
-/

namespace HomeAgents

/-- What a call of a backend gives back. `cancels` says that the running work was cancelled
meanwhile. -/
structure Answer (σ α : Type) where
  value : α
  cancels : Bool
  logs : List LogLine
  world : σ

namespace Answer

variable {σ α β : Type}

/-- An answer that cancels nothing and leaves the world as it was. -/
def pure (value : α) (world : σ) : Answer σ α :=
  ⟨value, false, [], world⟩

/-- An answer that follows another one and takes over what that one told. -/
def andThen (a : Answer σ α) (b : Answer σ β) : Answer σ β :=
  { b with cancels := a.cancels || b.cancels, logs := a.logs ++ b.logs }

def map (f : α → β) (a : Answer σ α) : Answer σ β :=
  ⟨f a.value, a.cancels, a.logs, a.world⟩

end Answer

end HomeAgents
