import FieldCheck.Binding.Arguments
import FieldCheck.Binding.Parameters

/-!
# Record declarations

A declaration names a type and its fields.  Attributes stand on the
declaration and on its fields; only those whose path is exactly one of two
names concern the binding of the type.
-/

namespace FieldCheck.Binding

structure Attribute where
  path : String
  arguments : Arguments
deriving DecidableEq

structure Member where
  name : String
  attributes : List Attribute
deriving DecidableEq

/-- The shapes of declarations.  Only a record has named fields to bind. -/
inductive Shape where
  | record
  | tuple
  | unit
  | enumeration
  | union
deriving DecidableEq

structure Declaration where
  shape : Shape
  name : String
  parameters : List Parameter
  attributes : List Attribute
  members : List Member

end FieldCheck.Binding
