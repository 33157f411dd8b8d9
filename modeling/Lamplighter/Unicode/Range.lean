/-!
# Sets of characters

A property of characters is given as a table of ranges, as of version 17.0 of the Unicode standard.
The ranges of a table ascend and do not touch, so that a character is found by walking up to the
first range that does not end before it.
-/

namespace Lamplighter.Unicode

/-- The characters from one number to another, both included. -/
structure CharRange where
  first : Nat
  last : Nat
deriving DecidableEq, Repr

namespace CharRange

/-- The ranges of a table ascend and do not touch. -/
def ascend : List CharRange → Bool
  | [] => true
  | [range] => range.first ≤ range.last
  | range :: next :: rest =>
      range.first ≤ range.last && range.last + 1 < next.first && ascend (next :: rest)

/-- A table has a character. -/
def cover (table : List CharRange) (char : Char) : Bool :=
  match table with
  | [] => false
  | range :: rest =>
      if range.last < char.toNat then cover rest char else decide (range.first ≤ char.toNat)

end CharRange

end Lamplighter.Unicode
