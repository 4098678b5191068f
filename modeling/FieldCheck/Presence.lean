import FieldCheck.Constraint

/-!
# Presence of numbers

What the rule `required` asks of a whole number is a matter of policy.  The
policies are listed from the strictest to the loosest.
-/

namespace FieldCheck

/-- When a whole number counts as present. -/
inductive Presence where
  | positive
  | nonZero
  | any
deriving DecidableEq

namespace Presence

def standard : Presence :=
  .positive

def admits : Presence → Int → Bool
  | .positive, number => Constraint.isPositive number
  | .nonZero, number => Constraint.isNonZero number
  | .any, _ => true

def text : Presence → String
  | .positive => "positive"
  | .nonZero => "non_zero"
  | .any => "any"

def ofText? (name : String) : Option Presence :=
  [positive, nonZero, any].find? (·.text == name)

/-- Read the value of a variable: blank ends and ASCII case do not count, and
the middle policy has three spellings. -/
def parse? (value : String) : Option Presence :=
  match Text.normalized value with
  | "positive" => some .positive
  | "non_zero" | "nonzero" | "non-zero" => some .nonZero
  | "any" => some .any
  | _ => none

end Presence

end FieldCheck
