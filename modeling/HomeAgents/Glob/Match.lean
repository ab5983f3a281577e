import HomeAgents.Glob.Pattern

/-!
# Names that match a pattern

Wildcards try the shortest sequence first. When the name ends before the pattern does, no longer
sequence can help, and the search stops at once.
-/

namespace HomeAgents.Glob

/-- What a try comes to; after `hopeless` no other try is made. -/
inductive Verdict where
  | matched
  | failed
  | hopeless
deriving DecidableEq, Repr, Inhabited

def Member.has (c : Char) : Member → Bool
  | single d => c == d
  | range a b => a ≤ c && c ≤ b

/-- The character fits a token for one character. -/
def Token.fits (c : Char) : Token → Bool
  | char d => c == d
  | anyChar => true
  | within set => set.any (Member.has c)
  | except set => !set.any (Member.has c)
  | _ => false

/-- Tries the rest of a pattern behind longer and longer sequences; `whole` admits only sequences
of whole components. -/
def afterSequence (attempt : List Char → Verdict) (whole : Bool) : List Char → Verdict
  | [] => attempt []
  | c :: cs =>
    if whole && c ≠ '/' then afterSequence attempt whole cs
    else
      match attempt cs with
      | .failed => afterSequence attempt whole cs
      | v => v

/-- Tries tokens on a name. -/
def tryTokens : List Token → List Char → Verdict
  | [], cs => if cs.isEmpty then .matched else .failed
  | token :: tokens, cs =>
    let behind (whole : Bool) : Verdict :=
      match tryTokens tokens cs with
      | .failed => afterSequence (tryTokens tokens) whole cs
      | v => v
    match token with
    | .anySequence => behind false
    | .anyComponents => behind true
    | token =>
      match cs with
      | [] => .hopeless
      | c :: cs => if token.fits c then tryTokens tokens cs else .failed

def accepts (pattern : List Token) (name : String) : Bool :=
  tryTokens pattern name.toList == .matched

end HomeAgents.Glob
