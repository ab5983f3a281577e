import HomeAgents.Json.Print

/-!
# Messages

What a conversation with a model is made of: who says something, and what is said.
-/

namespace HomeAgents

/-- Who speaks. -/
inductive Role where
  | user
  | assistant
  | system
deriving DecidableEq, Repr, Inhabited

def Role.label : Role → String
  | user => "user"
  | assistant => "assistant"
  | system => "system"

structure Message where
  role : Role
  content : String
deriving DecidableEq, Repr, Inhabited

namespace Message

def user (content : String) : Message := ⟨.user, content⟩

def assistant (content : String) : Message := ⟨.assistant, content⟩

def system (content : String) : Message := ⟨.system, content⟩

/-- The JSON text of a message; the role comes first. -/
def text (m : Message) : String :=
  Json.objectText
    [("role", Json.stringText m.role.label), ("content", Json.stringText m.content)]

def listText (ms : List Message) : String :=
  Json.arrayText (ms.map text)

end Message

end HomeAgents
