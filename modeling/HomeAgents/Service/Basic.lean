import HomeAgents.Backend.Answer
import HomeAgents.Collection.Sorted
import HomeAgents.Json.Print

/-!
# Services

A service carries out actions: it moves music, lights and timers. What it does is its own affair;
here it has a name, a list of actions and a way to be called.
-/

namespace HomeAgents

inductive ServiceError where
  | unsupportedAction (service action : String)
  | backend (reason : String)
deriving DecidableEq, Repr, Inhabited

def ServiceError.message : ServiceError → String
  | unsupportedAction service action =>
    "service '" ++ service ++ "' does not support action '" ++ action ++ "'"
  | backend reason => "backend error: " ++ reason

/-- A service, acting on a world. -/
structure Service (σ : Type) where
  name : String
  actions : List String
  call : String → Members → σ → Answer σ (Except ServiceError Json)

/-- The services that are there, by name. -/
abbrev ServiceRegistry (σ : Type) := Sorted (Service σ)

namespace ServiceRegistry

variable {σ : Type}

/-- Registers a service; one of the same name is replaced. -/
def register (service : Service σ) (services : ServiceRegistry σ) : ServiceRegistry σ :=
  Sorted.insert service.name service services

def ofList (ss : List (Service σ)) : ServiceRegistry σ :=
  ss.foldl (fun r s => register s r) []

def get? (services : ServiceRegistry σ) (name : String) : Option (Service σ) :=
  Sorted.find? name services

end ServiceRegistry

namespace Service

variable {σ : Type}

/-- Whether a dry run takes an action. A list without actions takes every one. -/
def dryRunAccepts (actions : List String) (action : String) : Bool :=
  actions.isEmpty || actions.contains action

/-- The acknowledgement of a dry run. -/
def dryRunReply (action : String) : Json :=
  .ofMembers [("status", .string "ok"), ("dry_run", .bool true), ("action", .string action)]

/-- A service that acknowledges its actions and does nothing. -/
def dryRun (name : String) (actions : List String) : Service σ where
  name := name
  actions := actions
  call action params world :=
    if dryRunAccepts actions action then
      { value := .ok (dryRunReply action)
        cancels := false
        logs := [⟨.info, "dry-run service call",
          [("service", name), ("action", action), ("params", (Json.object params).text)]⟩]
        world }
    else .pure (.error (.unsupportedAction name action)) world

end Service

end HomeAgents
