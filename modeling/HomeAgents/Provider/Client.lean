import HomeAgents.Http.Exchange
import HomeAgents.Json.Read
import HomeAgents.Model.Basic
import HomeAgents.Provider.Credentials
import HomeAgents.Setting.DotEnv

/-!
# Clients of providers

A client asks the server of a provider for completions: the conversation goes out as one JSON
object, and the text of the first choice is the reply.
-/

namespace HomeAgents

/-- A provider, the key for it, and a way to its server. -/
structure Client (σ : Type) where
  provider : ProviderConfig
  key : String
  send : Http.Transport σ

namespace ProviderConfig

/-- The key for a provider: from the environment, which the file of variables may complete, or
from the credentials. Credentials that cannot be used have no key. -/
def findKey (p : ProviderConfig) (vars : EnvironmentVariables) (tree : Files.Node)
    (directory : String) : Except ProviderError String :=
  let vars := DotEnv.completed vars tree directory
  let stored : Option String := do
    let path ← Places.credentialsFile? vars
    let credentials ← (Credentials.load tree path).toOption
    credentials.key? p.authKey
  match (Ordered.find? p.apiKeyEnv vars).or stored with
  | some key => .ok key
  | none => .error (.missingApiKey p.apiKeyEnv)

/-- Whether a provider is a server on this machine, which does not look at keys. -/
def isLocal (p : ProviderConfig) : Bool :=
  Text.contains p.baseUrl "localhost" || Text.contains p.baseUrl "127.0.0.1"

end ProviderConfig

namespace Client

variable {σ : Type}

/-- The model that a call is for. -/
def modelOf (c : Client σ) (params : CompletionParams) : String :=
  params.model.getD c.provider.defaultModel

/-- A message as providers take it. -/
def messageJson (m : Message) : Json :=
  .ofMembers [("role", .string m.role.label), ("content", .string m.content)]

/-- What is sent for a completion. A temperature is written as the double it is. -/
def content (c : Client σ) (messages : List Message) (params : CompletionParams) : Json :=
  .ofMembers ([("model", .string (c.modelOf params)),
    ("messages", .array (messages.map messageJson)),
    ("temperature", .number (.real (params.temperature.convert Binary.double))),
    ("stream", .bool false)] ++
    (params.maxTokens.map fun n => ("max_tokens", Json.ofNat n)).toList)

def request (c : Client σ) (messages : List Message) (params : CompletionParams) :
    Except Http.Fault Http.Request :=
  Http.Request.post (c.provider.baseUrl ++ "/chat/completions")
    [("authorization", "Bearer " ++ c.key), ("content-type", "application/json")]
    (c.content messages params).text

def firstChoice? (reply : Json) : Option String := do
  let choices ← reply.get? "choices"
  let choice ← choices.item? 0
  let message ← choice.get? "message"
  let text ← message.get? "content"
  text.asString?

/-- The greatest number that a provider may tell to wait. -/
def maxWait : Nat := Nat.pow 2 64 - 1

/-- The seconds that a header tells to wait, if it is a plain number. -/
def secondsOf? (s : String) : Option Nat :=
  let digits := match Text.trimChars s.toList with
    | '+' :: rest => rest
    | cs => cs
  if s.toList.all fun c => c = '\t' || (0x20 ≤ c.toNat && c.toNat < 0x7F) then
    (Http.Host.number? 10 digits).filter (· ≤ maxWait)
  else none

/-- How many seconds a refusal tells to wait. -/
def retryAfter? (r : Http.Reply) : Option Nat :=
  (r.header? "retry-after").bind secondsOf?

/-- The fields of a log line about the tokens that were used. -/
def usageFields (reply : Json) : List (String × String) :=
  let count (field name : String) : List (String × String) :=
    (((reply.get? "usage").bind (·.get? field)).bind Json.asNat?).toList.map fun n =>
      (name, toString n)
  count "prompt_tokens" "input_tokens" ++ count "completion_tokens" "output_tokens"

/-- What the content of a reply comes to. -/
def readContent (model text : String) : Except ProviderError String × List LogLine :=
  match Json.read text with
  | .error _ =>
    (.error (.malformed "Failed to parse response: error decoding response body"), [])
  | .ok reply =>
    match firstChoice? reply with
    | none => (.error (.malformed "No content in response"), [])
    | some text =>
      (.ok text, [⟨.info, "LLM call completed", ("model", model) :: usageFields reply⟩])

def secondsText : Option Nat → String
  | none => "None"
  | some n => "Some(" ++ toString n ++ ")"

/-- What a reply of the server comes to, and what is logged. -/
def readReply (model : String) (r : Http.Reply) : Except ProviderError String × List LogLine :=
  if r.status = 429 then
    (.error (.rateLimited (retryAfter? r)),
      [⟨.warn, "LLM call rate limited", [("retry_after", secondsText (retryAfter? r))]⟩])
  else if Http.isSuccess r.status then readContent model r.body
  else
    (.error (.status r.status r.text),
      [⟨.error, "LLM call returned error",
        [("status", Http.statusText r.status), ("error", r.text)]⟩])

/-- What an exchange with the server comes to, and what is logged. -/
def readOutcome (model : String) :
    Except Http.Fault Http.Reply → Except ProviderError String × List LogLine
  | .ok r => readReply model r
  | .error f =>
    (.error (.transport f.message), [⟨.error, "LLM request failed", [("error", f.message)]⟩])

/-- Asks for a completion. An exchange during which the work is cancelled does not come to its
end. -/
def complete (c : Client σ) (messages : List Message) (params : CompletionParams) (world : σ) :
    Answer σ Completion :=
  let model := c.modelOf params
  let begun : LogLine := ⟨.debug, "Starting LLM call",
    [("provider", c.provider.name), ("model", model),
      ("message_count", toString messages.length)]⟩
  let answer : Answer σ (Except Http.Fault Http.Reply) :=
    match c.request messages params with
    | .error f => .pure (.error f) world
    | .ok request => Http.fetch c.send request world
  let (reply, lines) := readOutcome model answer.value
  { answer with
    value := ⟨reply, if answer.cancels then some 0 else none⟩
    logs := begun :: answer.logs ++ (if answer.cancels then [] else lines) }

def model (c : Client σ) : ChatModel σ where
  provider := c.provider.name
  defaultModel := c.provider.defaultModel
  complete := c.complete

end Client

end HomeAgents
