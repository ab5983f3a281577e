import HomeAgents.Session.Edit
import HomeAgents.Session.Identity

/-!
# The scratchpads of all sessions

A session that is going on has one scratchpad. Whoever was given a scratchpad keeps it when the
session is ended and can go on writing to it, but nobody reaches it through the session any more:
a new session of the same number begins with an empty one.
-/

namespace HomeAgents

/-- Which scratchpad is meant: its place in the order in which they were made. -/
abbrev Handle := Nat

/-- A scratchpad with the number of the session it was made for. -/
structure SessionPad where
  session : SessionId
  pad : Scratchpad
deriving BEq, Repr, Inhabited

/-- All scratchpads that were ever made, and which of them belong to sessions that are going on. -/
structure SessionStore where
  pads : List SessionPad
  running : List (SessionId × Handle)
deriving BEq, Repr, Inhabited

namespace SessionStore

/-- No session has begun. -/
def empty : SessionStore := ⟨[], []⟩

/-- The scratchpad of a session that is going on. -/
def get? (s : SessionStore) (id : SessionId) : Option Handle :=
  s.running.lookup id

/-- Begins a session with an empty scratchpad. -/
def create (s : SessionStore) (id : SessionId) : Handle × SessionStore :=
  (s.pads.length,
    { pads := s.pads ++ [⟨id, .empty⟩]
      running := (id, s.pads.length) :: s.running.filter fun e => e.1 ≠ id })

/-- The scratchpad of a session, which begins if it is not going on. -/
def getOrCreate (s : SessionStore) (id : SessionId) : Handle × SessionStore :=
  match s.get? id with
  | some h => (h, s)
  | none => s.create id

/-- Ends a session and gives its scratchpad back. -/
def remove (s : SessionStore) (id : SessionId) : Option Handle × SessionStore :=
  (s.get? id, { s with running := s.running.filter fun e => e.1 ≠ id })

def size (s : SessionStore) : Nat :=
  s.running.length

def pad? (s : SessionStore) (h : Handle) : Option Scratchpad :=
  s.pads[h]?.map (·.pad)

def edit (s : SessionStore) (h : Handle) (e : ScratchpadEdit) : Option Json × SessionStore :=
  match s.pads[h]? with
  | none => (none, s)
  | some p =>
    let (removed, pad) := p.pad.edit e
    (removed, { s with pads := s.pads.set h { p with pad } })

end SessionStore

/-- Something that is done with sessions or with a scratchpad that was handed out. -/
inductive SessionStep where
  | create (id : SessionId)
  | getOrCreate (id : SessionId)
  | get (id : SessionId)
  | remove (id : SessionId)
  | edit (h : Handle) (e : ScratchpadEdit)
deriving BEq, Repr, Inhabited

namespace SessionStore

/-- Does a step; gives back the scratchpad it was about, if there is one, and what was removed
from it. -/
def apply (s : SessionStore) : SessionStep → (Option Handle × Option Json) × SessionStore
  | .create id => let (h, s) := s.create id; ((some h, none), s)
  | .getOrCreate id => let (h, s) := s.getOrCreate id; ((some h, none), s)
  | .get id => ((s.get? id, none), s)
  | .remove id => let (h, s) := s.remove id; ((h, none), s)
  | .edit h e => let (removed, s) := s.edit h e; ((some h, removed), s)

end SessionStore

end HomeAgents
