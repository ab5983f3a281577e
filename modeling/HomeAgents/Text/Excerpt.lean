import HomeAgents.Text.Blank
import HomeAgents.Text.Lines

/-!
# Excerpts

Two ways of shortening a text for a reader with little room. `truncate` keeps the beginning.
`condense` keeps a text that is short enough, truncates one of few lines, and of one with many lines
keeps the first three and the last two.
-/

namespace HomeAgents.Text

/-- The trimmed text if it has at most `max` characters, else its first `max` and an ellipsis. -/
def truncateChars (cs : List Char) (max : Nat) : List Char :=
  let body := trimChars cs
  if body.length ≤ max then body else body.take max ++ "...".toList

def truncate (s : String) (max : Nat) : String :=
  String.ofList (truncateChars s.toList max)

/-- The trimmed text if it has at most `max` characters. A longer one is truncated if it has at most
six lines, and otherwise cut down to its first three and last two lines. -/
def condense (s : String) (max : Nat) : String :=
  let body := trim s
  if body.length ≤ max then body
  else
    let ls := lines body
    if ls.length ≤ 6 then truncate body max
    else
      "\n".intercalate (ls.take 3) ++ "\n  ... (" ++ toString (ls.length - 5) ++ " lines) ...\n" ++
        "\n".intercalate (ls.drop (ls.length - 2))

end HomeAgents.Text
