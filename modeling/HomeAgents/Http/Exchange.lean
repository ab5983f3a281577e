import HomeAgents.Backend.Answer
import HomeAgents.Http.Status
import HomeAgents.Http.Url

/-!
# Exchanges

A request is sent and a reply comes back, or none does. A reply that says where to look instead is
followed, up to ten times; on the way to another site the credentials are left behind.
-/

namespace HomeAgents.Http

/-- Named texts before the content of a message; names are in lower case. -/
abbrev Headers := List (String × String)

/-- What a server is sent. -/
structure Request where
  method : String
  url : Url
  headers : Headers
  content : Option String
deriving DecidableEq, Repr, Inhabited

/-- What a server sends back. -/
structure Reply where
  status : Nat
  headers : Headers
  content : String
deriving DecidableEq, Repr, Inhabited

/-- Sends one request. Without a reply the connection was lost. -/
abbrev Transport (σ : Type) := Request → σ → Answer σ (Option Reply)

/-- Why a request has no reply. -/
inductive Fault where
  | badAddress
  | badHeader
  | unsupported (url : Url)
  | lost (url : Url)
  | tooManyMoves (url : Url)
deriving DecidableEq, Repr, Inhabited

def Fault.message : Fault → String
  | badAddress => "builder error"
  | badHeader => "builder error"
  | unsupported url => "builder error for url (" ++ url.text ++ ")"
  | lost url => "error sending request for url (" ++ url.text ++ ")"
  | tooManyMoves url => "error following redirect for url (" ++ url.text ++ ")"

/-- Whether a text may be the value of a header. -/
def isHeaderText (s : String) : Bool :=
  s.toList.all fun c => !isControl c || c = '\t'

/-- Whether requests can be sent to an address. -/
def isSupported (url : Url) : Bool :=
  url.site.isSome && (url.scheme = "http" || url.scheme = "https")

namespace Request

def post (address : String) (headers : Headers) (content : String) : Except Fault Request :=
  match Url.ofText? address with
  | none => .error .badAddress
  | some url =>
    if url.site.isNone then .error (.unsupported url)
    else if !headers.all fun h => isHeaderText h.2 then .error .badHeader
    else if !isSupported url then .error (.unsupported url)
    else .ok ⟨"POST", url, headers, some content⟩

def header? (r : Request) (name : String) : Option String :=
  r.headers.lookup name

/-- Where a port leads: the default is that of the scheme. -/
def portOf (url : Url) : Option Nat :=
  (url.site.bind (·.port)).or (Url.defaultPort? url.scheme)

/-- Whether two addresses are on the same site. -/
def sameSite (a b : Url) : Bool :=
  a.site.map (·.host) = b.site.map (·.host) && portOf a = portOf b

/-- The request to another address; credentials stay on their site. -/
def moveTo (r : Request) (url : Url) : Request :=
  { r with
    url
    headers := if sameSite r.url url then r.headers
      else r.headers.filter fun h => h.1 ≠ "authorization" }

/-- The request without content, which only asks. -/
def asking (r : Request) : Request :=
  { r with
    method := "GET"
    headers := r.headers.filter fun h => h.1 ≠ "content-type"
    content := none }

end Request

namespace Reply

/-- The first header of a name, which is given in lower case. -/
def header? (r : Reply) (name : String) : Option String :=
  (r.headers.find? fun h => h.1.toLower = name).map (·.2)

/-- The content of a reply; some numbers say that there is none. -/
def body (r : Reply) : String :=
  if r.status = 204 || r.status = 304 then "" else r.content

/-- The content as a text, without a mark of the byte order. -/
def text (r : Reply) : String :=
  match r.body.toList with
  | '\uFEFF' :: rest => String.ofList rest
  | _ => r.body

/-- The request that a reply asks for instead. -/
def instead? (r : Reply) (request : Request) : Option Request :=
  let next? : Option Request :=
    ((r.header? "location").bind request.url.join?).map request.moveTo
  if [301, 302, 303].contains r.status then next?.map (·.asking)
  else if [307, 308].contains r.status then next?
  else none

end Reply

variable {σ : Type}

def maxMoves : Nat := 10

/-- Sends a request and follows up to `room` moves. -/
def fetchFrom (send : Transport σ) (room : Nat) (request : Request) (world : σ) :
    Answer σ (Except Fault Reply) :=
  let answer := send request world
  match answer.value with
  | none => answer.map fun _ => .error (.lost request.url)
  | some reply =>
    match reply.instead? request, room with
    | none, _ => answer.map fun _ => .ok reply
    | some _, 0 => answer.map fun _ => .error (.tooManyMoves request.url)
    | some next, room + 1 =>
      if isSupported next.url then answer.andThen (fetchFrom send room next answer.world)
      else answer.map fun _ => .error (.unsupported next.url)

/-- Sends a request and follows moves. -/
def fetch (send : Transport σ) (request : Request) (world : σ) : Answer σ (Except Fault Reply) :=
  fetchFrom send maxMoves request world

end HomeAgents.Http
