import HomeAgents.Files.Path
import HomeAgents.Json.Record
import HomeAgents.Provider.Config
import HomeAgents.Setting.Fault

/-!
# Credentials

The keys of providers by name. A credential may also give the address and the model of its
provider, and with an address it makes a provider of its own.
-/

namespace HomeAgents

/-- What is known of a provider. -/
structure Credential where
  key : String
  baseUrl : Option String
  model : Option String
deriving DecidableEq, Repr, Inhabited

abbrev Credentials := Sorted Credential

namespace Credentials

open Json

/-- What has been read of a credential. -/
structure Draft where
  key : Option String := none
  baseUrl : Option (Option String) := none
  model : Option (Option String) := none

def record : Record Draft where
  title := "struct Credential"
  fields := [
    .of "key" true (·.key.isSome) readText fun v d => { d with key := some v },
    .of "base_url" false (·.baseUrl.isSome) (readOption readText) fun v d =>
      { d with baseUrl := some v },
    .of "model" false (·.model.isSome) (readOption readText) fun v d => { d with model := some v }]

def readCredential (limit : Nat) : Reader Credential := fun room cs =>
  match record.read limit {} room cs with
  | .error e => .error e
  | .ok (d, rest) => .ok (⟨d.key.getD "", d.baseUrl.getD none, d.model.getD none⟩, rest)

def ofText (text : String) : Except Fault Credentials :=
  (readWhole (fun limit => readMap limit (readCredential limit)) text.toList).map Sorted.ofList

def members (c : Credential) : List (String × String) :=
  [("key", stringText c.key)] ++ (c.baseUrl.map fun u => ("base_url", stringText u)).toList ++
    (c.model.map fun m => ("model", stringText m)).toList

def toText (cs : Credentials) : String :=
  objectText (cs.map fun e => (e.1, objectText (members e.2)))

/-- The credentials of a file; without a file there are none. -/
def load (tree : Files.Node) (path : String) : Except FileFault Credentials :=
  if Files.pathExists tree path then
    match Files.readText tree path with
    | .error e => .error (.unreadable path e)
    | .ok text => (ofText text).mapError (.badJson path text)
  else .ok []

/-- The key for a provider. -/
def key? (cs : Credentials) (provider : String) : Option String :=
  (Sorted.find? provider cs).map (·.key)

/-- The provider that exists through its credential alone, if that has an address. -/
def customProvider? (cs : Credentials) (name : String) : Option ProviderConfig := do
  let c ← Sorted.find? name cs
  let url ← c.baseUrl
  return .custom name url c.model

/-- The provider with the address and the model of its credential. -/
def apply (cs : Credentials) (p : ProviderConfig) : ProviderConfig :=
  match Sorted.find? p.authKey cs with
  | some c => p.withOverrides c.baseUrl c.model
  | none => p

end Credentials

end HomeAgents
