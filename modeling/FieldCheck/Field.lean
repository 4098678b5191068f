import FieldCheck.Rule.Expression
import FieldCheck.Value

/-!
# Fields

A field binds a value to a key and declares the rules that the value must
obey.  The kind of the field is the kind of its value.
-/

namespace FieldCheck

structure Field where
  key : String
  label : String
  value : Value
  rules : String

namespace Field

def plain (key : String) (value : Value) : Field :=
  ⟨key, "", value, ""⟩

/-- The name of the field in messages: its label, or its key when the label
is empty. -/
def displayLabel (field : Field) : String :=
  if field.label.isEmpty then field.key else field.label

def kind (field : Field) : Value.Kind :=
  field.value.kind

/-- Whether any rules are declared, known or not. -/
def hasRules (field : Field) : Bool :=
  !Expression.isBlank field.rules

end Field

end FieldCheck
