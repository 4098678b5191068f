import FieldCheck.Numeral

/-!
# Rules

A rule is one demand on the value of a field.  Three rules stand alone and
three carry a numeral as their bound.  Each class of values has a vocabulary
of its own, and a token of a rule expression is read in that vocabulary: a
text outside it is no rule.
-/

namespace FieldCheck

/-- The classes of values that rules can be tested on. -/
inductive ValueClass where
  | text
  | integer
deriving DecidableEq

inductive RuleName where
  | required
  | alpha
  | email
  | len
  | min
  | max
deriving DecidableEq

namespace RuleName

def text : RuleName → String
  | .required => "required"
  | .alpha => "alpha"
  | .email => "email"
  | .len => "len"
  | .min => "min"
  | .max => "max"

end RuleName

/-- A demand on a value, with its bound if it has one. -/
inductive Rule where
  | required
  | alpha
  | email
  | len (bound : Numeral)
  | min (bound : Numeral)
  | max (bound : Numeral)
deriving DecidableEq

namespace Rule

def name : Rule → RuleName
  | .required => .required
  | .alpha => .alpha
  | .email => .email
  | .len _ => .len
  | .min _ => .min
  | .max _ => .max

def bound? : Rule → Option Numeral
  | .required | .alpha | .email => none
  | .len bound | .min bound | .max bound => some bound

def literal? (rule : Rule) : Option String :=
  rule.bound?.map Numeral.text

/-- The name of a rule followed by its bound, if it has one. -/
def parts (rule : Rule) : List String :=
  rule.name.text :: rule.literal?.toList

def write (rule : Rule) : String :=
  "=".intercalate rule.parts

end Rule

namespace RuleName

def boundAfter? (word : String) (token : String) : Option Numeral :=
  ((word.toList ++ ['=']).isPrefixOf? token.toList).bind Numeral.ofChars?

def read? (name : RuleName) (token : String) : Option Rule :=
  match name with
  | .required => if token = name.text then some .required else none
  | .alpha => if token = name.text then some .alpha else none
  | .email => if token = name.text then some .email else none
  | .len => (boundAfter? name.text token).map .len
  | .min => (boundAfter? name.text token).map .min
  | .max => (boundAfter? name.text token).map .max

end RuleName

namespace ValueClass

def vocabulary : ValueClass → List RuleName
  | .text => [.required, .alpha, .email, .len, .min, .max]
  | .integer => [.required, .min, .max]

/-- Read a token in the vocabulary of a class.  The token is taken as it is:
blanks in it are not skipped. -/
def rule? (valueClass : ValueClass) (token : String) : Option Rule :=
  valueClass.vocabulary.findSome? (·.read? token)

end ValueClass

/-- A defect in the declaration of a rule: its bound is no number of the range
that it is read in. -/
structure RuleFault where
  field : String
  rule : RuleName
  literal : String
deriving DecidableEq

def RuleFault.message (fault : RuleFault) : String :=
  "rule `" ++ fault.rule.text ++ "` on field `" ++ fault.field ++
    "` has an invalid numeric argument `" ++ fault.literal ++ "`"

/-- The bound of a rule as a number of a range.  A rule without a bound has
no number either, and its defect shows an empty literal. -/
def Rule.argument (rule : Rule) (kind : IntegerKind) (field : String) :
    Except RuleFault Nat :=
  match rule.bound?.bind kind.read? with
  | some number => .ok number
  | none => .error ⟨field, rule.name, rule.literal?.getD ""⟩

end FieldCheck
