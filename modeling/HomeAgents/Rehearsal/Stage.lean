import HomeAgents.Files.Tree
import HomeAgents.Model.Basic
import HomeAgents.Time.Civil

/-!
# Rehearsals

A household can be tried out without a model: a scripted one gives replies that were written down
before. The stage is the world of a rehearsal. It has a clock and files, and it remembers every
call.
-/

namespace HomeAgents.Rehearsal

/-- What the scripted model does when it is called: it may cancel the running work and keep its
caller waiting before it replies. -/
structure Cue where
  reply : Except ProviderError String
  cancels : Bool
  waitMs : Option Nat

structure ModelCall where
  messages : List Message
  params : CompletionParams
deriving DecidableEq, Repr, Inhabited

/-- A run of a tool in a rehearsal. -/
structure ToolRun where
  tool : String
  args : Json
  agent : String
deriving BEq, Repr, Inhabited

structure ServiceCall where
  service : String
  action : String
  params : Members
deriving BEq, Repr, Inhabited

/-- The world of a rehearsal. -/
structure Stage where
  cues : List Cue
  clock : Int
  files : Files.Node
  modelCalls : List ModelCall
  toolRuns : List ToolRun
  serviceCalls : List ServiceCall

namespace Stage

/-- A stage on which nothing has been called yet. -/
def set (cues : List Cue) (clock : Int) (files : Files.Node) : Stage :=
  ⟨cues, clock, files, [], [], []⟩

/-- Moves the clock forward. -/
def pass (s : Stage) (ms : Nat) : Stage :=
  { s with clock := s.clock + ms * Time.nanosPerMilli }

/-- Forgets the calls so far. -/
def forget (s : Stage) : Stage :=
  set s.cues s.clock s.files

/-- Takes the next cue. The last one is taken again and again. -/
def next? (s : Stage) : Option Cue × Stage :=
  match s.cues with
  | [] => (none, s)
  | [cue] => (some cue, s)
  | cue :: rest => (some cue, { s with cues := rest })

end Stage

/-- The milliseconds that every call of the scripted model takes. -/
def callMs : Nat := 1000

/-- The scripted model. Without cues it has nothing to say. -/
def model : ChatModel Stage where
  provider := "scripted"
  defaultModel := "scripted-model"
  complete messages params stage :=
    let called :=
      Stage.pass { stage with modelCalls := stage.modelCalls ++ [⟨messages, params⟩] } callMs
    match called.next? with
    | (none, stage) => .pure ⟨.error (.malformed "script exhausted"), none⟩ stage
    | (some cue, stage) => ⟨⟨cue.reply, cue.waitMs⟩, cue.cancels, [], stage⟩

end HomeAgents.Rehearsal
