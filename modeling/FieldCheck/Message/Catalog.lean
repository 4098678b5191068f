import FieldCheck.Message.Kind

/-!
# Message catalogs

A catalog holds a template for every kind of message: its own where one has
been set, and the default otherwise.  A template that was set to the text of
the default still counts as set.
-/

namespace FieldCheck.Message

/-- The templates that replace the default ones. -/
structure Catalog where
  replacement? : Kind → Option String

namespace Catalog

def standard : Catalog :=
  ⟨fun _ => none⟩

def set (catalog : Catalog) (kind : Kind) (template : String) : Catalog :=
  ⟨fun queried =>
    if queried = kind then some template else catalog.replacement? queried⟩

def template (catalog : Catalog) (kind : Kind) : String :=
  (catalog.replacement? kind).getD kind.defaultTemplate

/-- Set templates from left to right; the last one of a kind stays. -/
def ofPairs (pairs : List (Kind × String)) : Catalog :=
  pairs.foldl (fun catalog pair => catalog.set pair.1 pair.2) standard

theorem ext_replacement? {left right : Catalog}
    (same : ∀ kind, left.replacement? kind = right.replacement? kind) :
    left = right := by
  cases left
  cases right
  exact congrArg Catalog.mk (funext same)

/-- Equality is decided kind by kind. -/
instance : DecidableEq Catalog := fun left right =>
  decidable_of_iff
    (∀ kind ∈ Kind.all, left.replacement? kind = right.replacement? kind)
    ⟨fun same => ext_replacement? (fun kind => same kind kind.mem_all),
      fun equal _ _ => by rw [equal]⟩

@[simp] theorem template_standard (kind : Kind) :
    standard.template kind = kind.defaultTemplate :=
  rfl

theorem template_set (catalog : Catalog) (kind : Kind) (text : String)
    (queried : Kind) :
    (catalog.set kind text).template queried =
      if queried = kind then text else catalog.template queried := by
  unfold template set
  by_cases same : queried = kind <;> simp [same]

end Catalog

end FieldCheck.Message
