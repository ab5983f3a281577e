/-!
# Occurrences of a text in another

Occurrences are looked for from left to right. The empty text occurs everywhere. Replacement takes
occurrences that do not overlap.
-/

namespace HomeAgents.Text

/-- Whether the characters occur one after the other in a text. -/
def occursIn (needle : List Char) : List Char → Bool
  | [] => needle.isEmpty
  | c :: cs => needle.isPrefixOf (c :: cs) || occursIn needle cs

def contains (text needle : String) : Bool :=
  occursIn needle.toList text.toList

/-- Replaces occurrences; `skip` counts the characters of the last one still to be passed over. -/
def replaceFrom (needle image : List Char) : Nat → List Char → List Char
  | _, [] => []
  | skip + 1, _ :: cs => replaceFrom needle image skip cs
  | 0, c :: cs =>
    if !needle.isEmpty && needle.isPrefixOf (c :: cs) then
      image ++ replaceFrom needle image (needle.length - 1) cs
    else c :: replaceFrom needle image 0 cs

/-- Replaces every occurrence of a text that is not empty. -/
def replace (text needle image : String) : String :=
  String.ofList (replaceFrom needle.toList image.toList 0 text.toList)

end HomeAgents.Text
