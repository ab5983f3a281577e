import HomeAgents.Http.Exchange
import HomeAgents.Text.Blank

/-!
# Messages on the wire

How a request is written for a server, and how its reply is read: lines of a head, an empty line,
and content whose end the head tells. Every connection serves one request.
-/

namespace HomeAgents.Http

namespace Request

/-- The bytes of a request. -/
def wire (r : Request) : ByteArray :=
  let host := (r.url.site.map Url.siteText).getD ""
  let length := (r.content.map fun s => ("content-length", toString s.utf8ByteSize)).toList
  let headers := [("host", host), ("accept", "*/*"), ("connection", "close")] ++ r.headers ++ length
  let first := r.method ++ " " ++ r.url.target ++ " HTTP/1.1"
  let head := first :: headers.map fun h => h.1 ++ ": " ++ h.2
  ("\r\n".intercalate head ++ "\r\n\r\n" ++ r.content.getD "").toUTF8

end Request

namespace Reply

/-- Bytes up to the first end of a line, and what comes behind it. -/
def splitLine? (bytes : List UInt8) : Option (String × List UInt8) :=
  match bytes.dropWhile (· ≠ 10) with
  | [] => none
  | _ :: rest =>
    let line := bytes.takeWhile (· ≠ 10)
    let line := if line.getLast? = some 13 then line.dropLast else line
    (String.fromUTF8? ⟨line.toArray⟩).map fun s => (s, rest)

def headerOf? (line : String) : Option (String × String) :=
  let cs := line.toList
  match cs.dropWhile (· ≠ ':') with
  | [] => none
  | _ :: value =>
    some ((String.ofList (cs.takeWhile (· ≠ ':'))).toLower, Text.trim (String.ofList value))

/-- The headers up to the empty line, and the bytes behind it; `room` bounds their number. -/
def readHeaders? (room : Nat) (bytes : List UInt8) : Option (Headers × List UInt8) :=
  match room, splitLine? bytes with
  | _, none => none
  | 0, _ => none
  | room + 1, some (line, rest) =>
    if line.isEmpty then some ([], rest)
    else
      match headerOf? line, readHeaders? room rest with
      | some h, some (hs, rest) => some (h :: hs, rest)
      | _, _ => none

/-- The status in the first line of a reply. -/
def statusOf? (line : String) : Option Nat :=
  match Text.splitAt ' ' line with
  | version :: code :: _ =>
    if version.startsWith "HTTP/1." then Host.number? 10 code.toList else none
  | _ => none

/-- The content of chunks, each behind a line with its length; `room` bounds their number. -/
def joinChunks? (room : Nat) (bytes : List UInt8) : Option (List UInt8) :=
  match room, splitLine? bytes with
  | _, none => none
  | 0, _ => none
  | room + 1, some (line, rest) =>
    match Host.number? 16 (line.toList.takeWhile fun c => (SessionId.digit? c).isSome) with
    | none => none
    | some 0 => some []
    | some n =>
      if rest.length < n + 2 then none
      else (joinChunks? room (rest.drop (n + 2))).map (rest.take n ++ ·)

/-- The content behind a head. -/
def contentOf? (headers : Headers) (bytes : List UInt8) : Option (List UInt8) :=
  if (headers.lookup "transfer-encoding").map String.toLower = some "chunked" then
    joinChunks? bytes.length bytes
  else
    match (headers.lookup "content-length").map fun s => Host.number? 10 s.toList with
    | none => some bytes
    | some none => none
    | some (some n) => if bytes.length < n then none else some (bytes.take n)

/-- The reply that bytes spell; `interim` replies may come before it. Content must be a text. -/
def ofBytes? (interim : Nat) (bytes : List UInt8) : Option Reply := do
  let (first, rest) ← splitLine? bytes
  let status ← statusOf? first
  let (headers, rest) ← readHeaders? rest.length rest
  if 100 ≤ status && status < 200 && status ≠ 101 then
    match interim with
    | 0 => none
    | interim + 1 => ofBytes? interim rest
  else
    let content ← if status = 204 || status = 304 then some [] else contentOf? headers rest
    let text ← String.fromUTF8? ⟨content.toArray⟩
    return ⟨status, headers, text⟩

end Reply

end HomeAgents.Http
