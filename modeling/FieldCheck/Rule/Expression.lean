import FieldCheck.Rule
import FieldCheck.Text.Blank

/-!
# Rule expressions

A rule expression is a text of tokens with commas between them.  Blanks around
a token do not count, and a token that the vocabulary of the value's class
does not know is passed over.
-/

namespace FieldCheck.Expression

def tokens (expression : String) : List String :=
  (expression.toList.splitOn ',').map
    (fun piece => String.ofList (Text.trimmed piece))

def isBlank (expression : String) : Bool :=
  (Text.trimmed expression.toList).isEmpty

def rules (valueClass : ValueClass) (expression : String) : List Rule :=
  (tokens expression).filterMap valueClass.rule?

end FieldCheck.Expression
