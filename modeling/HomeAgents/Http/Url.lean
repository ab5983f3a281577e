import HomeAgents.Http.Host

/-!
# Addresses on the web

An address has a scheme, a site, a path and perhaps a query and a fragment. Reading one brings it
into a normal form: names in lower case, no default port, no `.` and `..` in the path, and
everything escaped that may not stand where it stands. User names and passwords are read over.
-/

namespace HomeAgents.Http

/-- A host with the port that is not the default of the scheme. -/
structure Site where
  host : Host
  port : Option Nat
deriving DecidableEq, Repr, Inhabited

structure Url where
  scheme : String
  site : Option Site
  path : String
  query : Option String
  fragment : Option String
deriving DecidableEq, Repr, Inhabited

namespace Url

/-- The default port of a scheme whose addresses are always on a site. -/
def defaultPort? : String → Option Nat
  | "http" => some 80
  | "https" => some 443
  | "ws" => some 80
  | "wss" => some 443
  | "ftp" => some 21
  | _ => none

/-- Schemes with addresses in the way of the web. -/
def isWeb (scheme : String) : Bool :=
  (defaultPort? scheme).isSome || scheme = "file"

/-- A character that separates segments. -/
def isSeparator (scheme : String) (c : Char) : Bool :=
  c = '/' || (isWeb scheme && c = '\\')

/-- Characters without those that are never part of an address: control characters and blanks at the
ends, and tabs and line ends everywhere. -/
def clean (s : String) : List Char :=
  let outside (c : Char) : Bool := c.toNat ≤ 0x20
  (((s.toList.dropWhile outside).reverse.dropWhile outside).reverse).filter fun c =>
    c ≠ '\t' && c ≠ '\n' && c ≠ '\r'

/-- The scheme at the beginning of characters, in lower case, and what comes behind its colon. -/
def scheme? (cs : List Char) : Option (String × List Char) :=
  let name := cs.takeWhile fun c => c.isAlphanum || c = '+' || c = '-' || c = '.'
  match name, cs.drop name.length with
  | c :: _, ':' :: rest =>
    if c.isAlpha then some (String.ofList (name.map Char.toLower), rest) else none
  | _, _ => none

/-- Characters up to a mark, and what comes behind the mark if it is there. -/
def cutAt (mark : Char) (cs : List Char) : List Char × Option (List Char) :=
  match cs.dropWhile (· ≠ mark) with
  | [] => (cs, none)
  | _ :: rest => (cs.takeWhile (· ≠ mark), some rest)

/-- A segment that means the place itself. -/
def isHere (segment : String) : Bool :=
  [".", "%2e"].contains segment.toLower

/-- A segment that means one place further up. -/
def isUp (segment : String) : Bool :=
  ["..", ".%2e", "%2e.", "%2e%2e"].contains segment.toLower

/-- Follows segments from others on. A path that ends with a segment that only moves ends with an
empty one. -/
def walk (done : List String) : List String → List String
  | [] => done
  | segment :: rest =>
    let done :=
      if isUp segment then done.dropLast else if isHere segment then done else done ++ [segment]
    if rest.isEmpty && (isUp segment || isHere segment) then done ++ [""] else walk done rest

def segments (scheme : String) (cs : List Char) : List String :=
  (Text.splitFrom '/' [] (cs.map fun c => if isSeparator scheme c then '/' else c)).map
    (escape escapedInPath)

def pathOf (segments : List String) : String :=
  "/" ++ "/".intercalate segments

/-- The path of the characters behind a site. -/
def sitePath (scheme : String) : List Char → String
  | [] => if isWeb scheme then "/" else ""
  | _ :: rest => pathOf (walk [] (segments scheme rest))

/-- A port that is not the default; none is the default. -/
def port? (scheme : String) (digits : List Char) : Option (Option Nat) :=
  if digits.isEmpty then some none
  else
    match Host.number? 10 digits with
    | some n =>
      if 65535 < n then none else if defaultPort? scheme = some n then some none else some (some n)
    | none => none

/-- The host of an address that is not of the web: its characters as they are, with escapes. -/
def plainHost? (cs : List Char) : Option Host :=
  if cs.head? = some '[' then Host.ofChars? cs
  else if cs.any fun c => c ≠ '%' && !isControl c && Host.forbidden c then none
  else some (.name (escape isControl cs))

def site? (scheme : String) (cs : List Char) : Option Site := do
  let back := cs.reverse.takeWhile (· ≠ '@')
  let cs := back.reverse
  let digits := (back.takeWhile (· ≠ ':')).reverse
  let (host, port) :=
    if digits.contains ']' || digits.length = cs.length then (cs, [])
    else (cs.take (cs.length - digits.length - 1), digits)
  let port ← port? scheme port
  let host ← if isWeb scheme then Host.ofChars? host else plainHost? host
  return ⟨host, port⟩

/-- The address on the site that characters begin with. -/
def onSite? (scheme : String) (cs : List Char) (query fragment : Option String) : Option Url :=
  let authority := cs.takeWhile fun c => !isSeparator scheme c
  match site? scheme authority with
  | some site =>
    some ⟨scheme, some site, sitePath scheme (cs.drop authority.length), query, fragment⟩
  | none => none

/-- The address of a file. A site other than this machine's own stays. -/
def file? (cs : List Char) (query fragment : Option String) : Option Url :=
  let slashes := cs.takeWhile (isSeparator "file")
  let rest := cs.drop slashes.length
  let here (cs : List Char) : Option Url :=
    some ⟨"file", none, pathOf (walk [] (segments "file" cs)), query, fragment⟩
  if slashes.length = 2 then
    let authority := rest.takeWhile fun c => !isSeparator "file" c
    if authority.isEmpty || authority = "localhost".toList then
      here (rest.drop (authority.length + 1))
    else onSite? "file" rest query fragment
  else here (if slashes.length < 2 then rest else cs.drop 3)

/-- Query and fragment of characters, and what comes before them. -/
def tail (scheme : String) (cs : List Char) : List Char × Option String × Option String :=
  let (cs, fragment) := cutAt '#' cs
  let (cs, query) := cutAt '?' cs
  let escaped (c : Char) : Bool := escapedInQuery c || (isWeb scheme && c = '\'')
  (cs, query.map (escape escaped), fragment.map (escape escapedInFragment))

/-- The address of a scheme that characters spell on their own. -/
def absolute? (scheme : String) (cs : List Char) : Option Url :=
  let (cs, query, fragment) := tail scheme cs
  if scheme = "file" then file? cs query fragment
  else if isWeb scheme then onSite? scheme (cs.dropWhile (isSeparator scheme)) query fragment
  else
    match cs with
    | '/' :: '/' :: rest => onSite? scheme rest query fragment
    | '/' :: _ => some ⟨scheme, none, sitePath scheme cs, query, fragment⟩
    | _ => some ⟨scheme, none, escape isControl cs, query, fragment⟩

def ofText? (s : String) : Option Url :=
  match scheme? (clean s) with
  | some (scheme, rest) => absolute? scheme rest
  | none => none

/-- The address that characters without a scheme spell as seen from another one. -/
def relative? (base : Url) (cs : List Char) : Option Url :=
  let (cs, query, fragment) := tail base.scheme cs
  match cs with
  | [] => some { base with query := query.or base.query, fragment }
  | c :: rest =>
    if isSeparator base.scheme c then
      if (rest.head?.map (isSeparator base.scheme)).getD false then
        onSite? base.scheme (rest.dropWhile (isSeparator base.scheme)) query fragment
      else some { base with path := sitePath base.scheme cs, query, fragment }
    else
      let above := ((Text.splitAt '/' base.path).drop 1).dropLast
      some { base with path := pathOf (walk above (segments base.scheme cs)), query, fragment }

/-- The address that a text spells as seen from another address. -/
def join? (base : Url) (s : String) : Option Url :=
  let cs := clean s
  match scheme? cs with
  | none => relative? base cs
  | some (scheme, rest) =>
    if scheme = base.scheme && isWeb scheme && (rest.takeWhile (isSeparator scheme)).length < 2 then
      relative? base rest
    else absolute? scheme rest

def siteText (site : Site) : String :=
  site.host.text ++ (site.port.map fun n => ":" ++ toString n).getD ""

/-- What a server is asked for. -/
def target (u : Url) : String :=
  u.path ++ (u.query.map ("?" ++ ·)).getD ""

def text (u : Url) : String :=
  u.scheme ++ ":" ++ (match u.site with
    | some site => "//" ++ siteText site
    | none => if u.scheme = "file" then "//" else "") ++
    u.target ++ (u.fragment.map ("#" ++ ·)).getD ""

end Url

end HomeAgents.Http
