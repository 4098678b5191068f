import FieldCheck.Text.Replacement

/-!
# Messages

A message is rendered from a template, which it keeps.  Two placeholders may
stand in a template: one for the label of the field and one for the bound of
the rule that failed.
-/

namespace FieldCheck

/-- What is shown for a failure, and the template that it comes from. -/
structure Message where
  rendered : String
  template : String
deriving DecidableEq

namespace Message

def labelPlaceholder : String :=
  "$\x7blabel\x7d"

def boundPlaceholder : String :=
  "$\x7brule_value\x7d"

/-- Fill in a template.  The label is put in everywhere before any bound is,
so a label that holds the placeholder of the bound receives it too.  A rule
without a bound leaves nothing in its place. -/
def render (template label : String) (bound? : Option String) : Message where
  rendered :=
    Text.replaceAll boundPlaceholder (bound?.getD "")
      (Text.replaceAll labelPlaceholder label template)
  template := template

@[simp] theorem template_render (template label : String)
    (bound? : Option String) :
    (render template label bound?).template = template :=
  rfl

end Message

end FieldCheck
