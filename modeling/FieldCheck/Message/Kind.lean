import FieldCheck.Message
import FieldCheck.Rule

/-!
# Kinds of messages

Every failure of a rule is of one of eight kinds.  `min` and `max` speak of
the length of a text and of the size of a number, which are different kinds;
the other rules have one kind each.
-/

namespace FieldCheck.Message

inductive Kind where
  | required
  | exactLength
  | minLength
  | maxLength
  | alpha
  | email
  | minValue
  | maxValue
deriving DecidableEq

namespace Kind

def all : List Kind :=
  [.required, .exactLength, .minLength, .maxLength, .alpha, .email, .minValue,
    .maxValue]

theorem mem_all (kind : Kind) : kind ∈ all := by
  cases kind <;> decide

def index (kind : Kind) : Nat :=
  all.idxOf kind

def text : Kind → String
  | .required => "required"
  | .exactLength => "exact_length"
  | .minLength => "min_length"
  | .maxLength => "max_length"
  | .alpha => "alpha"
  | .email => "email"
  | .minValue => "min_value"
  | .maxValue => "max_value"

def ofText? (name : String) : Option Kind :=
  all.find? (·.text == name)

def defaultTemplate : Kind → String
  | .required => labelPlaceholder ++ " cannot be empty"
  | .exactLength =>
      labelPlaceholder ++ " must exact " ++ boundPlaceholder ++
        " characters length"
  | .minLength =>
      labelPlaceholder ++ " cannot less than minimum " ++ boundPlaceholder ++
        " characters length"
  | .maxLength =>
      labelPlaceholder ++ " cannot greater than maximum " ++
        boundPlaceholder ++ " characters length"
  | .alpha => labelPlaceholder ++ " must only contains alphabetical characters"
  | .email => labelPlaceholder ++ " is invalid"
  | .minValue =>
      labelPlaceholder ++ " cannot less than minimum " ++ boundPlaceholder ++
        " value"
  | .maxValue =>
      labelPlaceholder ++ " cannot greater than maximum " ++
        boundPlaceholder ++ " value"

def ofRule : RuleName → ValueClass → Kind
  | .required, _ => .required
  | .alpha, _ => .alpha
  | .email, _ => .email
  | .len, _ => .exactLength
  | .min, .text => .minLength
  | .max, .text => .maxLength
  | .min, .integer => .minValue
  | .max, .integer => .maxValue

theorem ofText?_text (kind : Kind) : ofText? kind.text = some kind := by
  cases kind <;> rfl

/-- Only the name of a kind is read as that kind. -/
theorem text_of_ofText? {name : String} {kind : Kind}
    (read : ofText? name = some kind) : kind.text = name := by
  simpa using List.find?_some read

end Kind

end FieldCheck.Message
