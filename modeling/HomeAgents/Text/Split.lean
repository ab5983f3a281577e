/-!
# Pieces of a text

Splitting at a character keeps empty pieces, so that joining the pieces with it gives the text back.
-/

namespace HomeAgents.Text

/-- Collects pieces; `current` holds the open one, backwards. -/
def splitFrom (mark : Char) (current : List Char) : List Char → List (List Char)
  | [] => [current.reverse]
  | c :: cs =>
    if c = mark then current.reverse :: splitFrom mark [] cs else splitFrom mark (c :: current) cs

/-- The pieces of a text between the occurrences of a character. -/
def splitAt (mark : Char) (s : String) : List String :=
  (splitFrom mark [] s.toList).map String.ofList

end HomeAgents.Text
