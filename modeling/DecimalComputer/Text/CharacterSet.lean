/-
# Sets of characters given by intervals of code points

A character property of the Unicode standard is a table of closed intervals.
This module only says what membership in such a table is; the tables are
modules of their own, each named for the property that it lists.
-/

namespace DecimalComputer.Text

/-- A set of characters, listed as closed intervals of code points. -/
abbrev CharacterSet := List (Nat × Nat)

namespace CharacterSet

/-- A character belongs to the set when its code point lies in one of the intervals. -/
def contains (set : CharacterSet) (c : Char) : Bool :=
  set.any fun (first, last) => first ≤ c.toNat && c.toNat ≤ last

/-- The intervals follow one another, with at least one code point between two of them. -/
def isOrdered : CharacterSet → Bool
  | (first, last) :: (first', last') :: rest =>
      first ≤ last && last + 1 < first' && isOrdered ((first', last') :: rest)
  | [(first, last)] => first ≤ last
  | [] => true

end CharacterSet

end DecimalComputer.Text
