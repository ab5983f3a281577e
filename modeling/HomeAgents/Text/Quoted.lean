import HomeAgents.Unicode.VisibleTable
import HomeAgents.Unicode.Word

/-!
# Quoted texts in messages

Messages and log fields show a text between double quotes with quotes, backslashes and everything
that could not be seen written as escapes.
-/

namespace HomeAgents.Text

open Unicode

/-- The hexadecimal digits of a number, in lower case and without leading zeros. -/
def hexDigits (n : Nat) : String :=
  String.ofList (Nat.toDigits 16 n)

/-- A character that stands for itself in a quoted text. -/
def isVisible (c : Char) : Bool :=
  let n := c.toNat
  if n < 0x7F then 0x20 ≤ n
  else !inRanges extendRanges n && inRanges visibleRanges n

/-- The form of one character inside double quotes. -/
def quoteChar (c : Char) : String :=
  match c with
  | '\x00' => "\\0"
  | '\t' => "\\t"
  | '\n' => "\\n"
  | '\r' => "\\r"
  | '"' => "\\\""
  | '\\' => "\\\\"
  | c => if isVisible c then c.toString else "\\u\x7b" ++ hexDigits c.toNat ++ "\x7d"

/-- The text between double quotes, with everything escaped that could be misread. -/
def quoted (s : String) : String :=
  "\"" ++ String.join (s.toList.map quoteChar) ++ "\""

end HomeAgents.Text
