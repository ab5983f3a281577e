import HomeAgents.Unicode.WordTable

/-!
# Letters and numbers

The class of characters that words are made of in any script.
-/

namespace HomeAgents.Unicode

/-- The number lies in one of the closed ranges. -/
def inRanges (ranges : List (Nat × Nat)) (n : Nat) : Bool :=
  ranges.any fun r => r.1 ≤ n && n ≤ r.2

/-- A letter or a number of any script. -/
def isAlphanumeric (c : Char) : Bool :=
  if c.toNat < 0x80 then c.isAlphanum else inRanges wordRanges c.toNat

end HomeAgents.Unicode
