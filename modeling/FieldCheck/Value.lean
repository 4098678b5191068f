import FieldCheck.Rule

/-!
# Field values

A field holds a text, a whole number of any size, a binary fraction or a truth
value; anything else has no reading as one of these.  Rules exist for texts
and whole numbers only.
-/

namespace FieldCheck

/-- The value of a field. -/
inductive Value where
  | text (content : String)
  | integer (number : Int)
  | float (number : Float)
  | flag (truth : Bool)
  | unsupported

namespace Value

inductive Kind where
  | text
  | integer
  | float
  | flag
  | unsupported
deriving DecidableEq

def kind : Value → Kind
  | .text _ => .text
  | .integer _ => .integer
  | .float _ => .float
  | .flag _ => .flag
  | .unsupported => .unsupported

namespace Kind

/-- The class in which the rules of a kind are read; the kinds without one
are not tested. -/
def valueClass? : Kind → Option ValueClass
  | .text => some .text
  | .integer => some .integer
  | .float | .flag | .unsupported => none

def title : Kind → String
  | .text => "String"
  | .integer => "Integer"
  | .float => "Float"
  | .flag => "Bool"
  | .unsupported => "Other"

end Kind

end Value

end FieldCheck
