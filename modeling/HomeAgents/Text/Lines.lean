/-!
# Lines

A line ends at a line feed, a carriage return right before it belongs to the ending, and the last
line may lack its ending. A text that ends with a line feed has no empty line after it.
-/

namespace HomeAgents.Text

/-- A line read backwards, put in order and without the carriage return of its ending. -/
def closeLine : List Char → List Char
  | '\r' :: cs => cs.reverse
  | cs => cs.reverse

/-- Collects lines: `done` holds the finished ones and `current` the open one, both backwards. -/
def linesFrom (done : List (List Char)) (current : List Char) : List Char → List (List Char)
  | [] => if current.isEmpty then done.reverse else (current.reverse :: done).reverse
  | c :: cs =>
    if c = '\n' then linesFrom (closeLine current :: done) [] cs
    else linesFrom done (c :: current) cs

/-- The lines of a text, without their endings. -/
def lineChars (cs : List Char) : List (List Char) :=
  linesFrom [] [] cs

def lines (s : String) : List String :=
  (lineChars s.toList).map String.ofList

/-- The first line of a text, empty for the empty text. -/
def firstLine (s : String) : String :=
  (lines s).headD ""

end HomeAgents.Text
