import FieldCheck.Text.Address
import FieldCheck.Text.ByteOrder

/-!
# Constraints on single values

These are the tests behind the rules.  Lengths count Unicode scalar values,
and a bound itself is within its range.
-/

namespace FieldCheck.Constraint

/-- Whether a text has any character; blanks count. -/
def isPresent (text : String) : Bool :=
  !text.isEmpty

def hasLength (text : String) (length : Nat) : Bool :=
  text.length == length

def hasMinLength (text : String) (minimum : Nat) : Bool :=
  minimum ≤ text.length

def hasMaxLength (text : String) (maximum : Nat) : Bool :=
  text.length ≤ maximum

/-- Whether a text has ASCII letters and spaces only; the empty text does. -/
def isAlphabetic (text : String) : Bool :=
  text.toList.all (fun character => character.isAlpha || character == ' ')

def isEmail (text : String) : Bool :=
  Text.Address.isAddress text

def isPositive (number : Int) : Bool :=
  0 < number

def isNonZero (number : Int) : Bool :=
  number != 0

def atLeast {α : Type} [LE α] [DecidableLE α] (value minimum : α) : Bool :=
  minimum ≤ value

def atMost {α : Type} [LE α] [DecidableLE α] (value maximum : α) : Bool :=
  value ≤ maximum

end FieldCheck.Constraint
