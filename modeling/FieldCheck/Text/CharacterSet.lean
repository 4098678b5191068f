/-!
# Sets of characters

A property of characters is given by ranges of code points, both ends
included, in ascending order.
-/

namespace FieldCheck.Text

/-- A set of characters, as ranges of code points. -/
structure CharacterSet where
  ranges : Array (Nat × Nat)

namespace CharacterSet

def contains (set : CharacterSet) (character : Char) : Bool :=
  set.ranges.any
    (fun range => range.1 ≤ character.toNat && character.toNat ≤ range.2)

end CharacterSet

end FieldCheck.Text
