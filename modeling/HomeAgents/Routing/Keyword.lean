import HomeAgents.Agent.Config
import HomeAgents.Unicode.Case

/-!
# Keyword scores

A message is heard by its words. An agent scores once for each place where the words of one of its
keywords stand in the message, in any case and whatever separates them.
-/

namespace HomeAgents.Routing

open Unicode

/-- A character of a word. -/
def isWordChar (c : Char) : Bool :=
  isAlphanumeric c || c == '_' || c == '\''

/-- Collects words: `done` holds the finished ones and `current` the open one, both backwards. -/
def wordsFrom (done : List (List Char)) (current : List Char) : List Char → List (List Char)
  | [] => (if current.isEmpty then done else current.reverse :: done).reverse
  | c :: cs =>
    if isWordChar c then wordsFrom done (c :: current) cs
    else if current.isEmpty then wordsFrom done [] cs
    else wordsFrom (current.reverse :: done) [] cs

/-- The words of a text in lower case. -/
def words (s : String) : List String :=
  (wordsFrom [] [] s.toList).map fun w => toLower (String.ofList w)

/-- The number of places where a phrase stands among words. -/
def occurrences (phrase : List String) : List String → Nat
  | [] => 0
  | w :: ws => (if phrase.isPrefixOf (w :: ws) then 1 else 0) + occurrences phrase ws

/-- The number of hits of a keyword among words; a keyword without words hits nothing. -/
def hits (ws : List String) (keyword : String) : Nat :=
  let phrase := words keyword
  if phrase.isEmpty then 0 else occurrences phrase ws

/-- The score of an agent for a message. -/
def score (message : String) (c : AgentConfig) : Nat :=
  c.keywords.foldl (fun total keyword => total + hits (words message) keyword) 0

/-- The better of the best agent so far and another; the earlier one if they score the same. -/
def better (message : String) (best : Option (String × Nat)) (c : AgentConfig) :
    Option (String × Nat) :=
  let s := score message c
  match best with
  | none => if 0 < s then some (c.name, s) else none
  | some (name, t) => if t < s then some (c.name, s) else some (name, t)

/-- The name of the agent with the greatest score, of several the first; nothing if none scores. -/
def bestAgent (message : String) (agents : List AgentConfig) : Option String :=
  (agents.foldl (better message) none).map Prod.fst

end HomeAgents.Routing
