import FieldCheck.Proofs.BindingAdequacy

/-!
# The first complaint about a declaration

A declaration may have many defects at once, of which one is reported.  The
places at which something can be wrong are listed in the order of the source
(`Declaration.places`), and what is wrong at a single place is said on its own
(`Place.Complains`).  The complaint about a declaration is that of its first
defective place, so nothing that comes after this place has a part in it.  Only
a text at the beginning of a `rule` attribute hangs on what follows it: alone it
is the short form of the attribute.
-/

namespace FieldCheck.Binding

/-- What stands behind the path of an attribute, its arguments apart. -/
inductive Opening where
  | bare
  | assigned
  | bracketed
deriving DecidableEq

/-- A place at which something can be wrong.  A list of arguments is followed by
what ends it early, if anything does.  The last two stand at the end of a `rule`
attribute, where all its arguments are known. -/
inductive Place where
  | moduleAttribute (opening : Opening)
  | moduleArgument (argument : Argument)
  | shape (shape : Shape)
  | ruleAttribute (opening : Opening)
  | ruleArgument (argument : Argument)
  | listEnd (flaw? : Option Flaw)
  | requiredRules (names : List String)
  | finalKey (arguments : List Argument)

/-- What is wrong with a value that should be a text. -/
inductive ArgumentValue.Lacks : ArgumentValue → Fault → Prop where
  | missing : Lacks .missing .missingValue
  | ended : Lacks .ended .missingText
  | number : Lacks .number .notText

/-- What is wrong at a place. -/
inductive Place.Complains : Place → Fault → Prop where
  | bareModule :
      Complains (.moduleAttribute .bare) (.noArguments "validatable")
  | assignedModule :
      Complains (.moduleAttribute .assigned) (.noBrackets "validatable")
  | unknownModuleName {argument : Argument} (other : argument.name ≠ "crate") :
      Complains (.moduleArgument argument) .expectedModule
  | moduleValue {argument : Argument} {fault : Fault}
      (named : argument.name = "crate") (lacks : argument.value.Lacks fault) :
      Complains (.moduleArgument argument) fault
  | modulePath {argument : Argument} {source : String} {fault : PathFault}
      (named : argument.name = "crate") (given : argument.value = .text source)
      (unread : ModulePath.parse source = .error fault) :
      Complains (.moduleArgument argument) (.badPath fault)
  | enumeration : Complains (.shape .enumeration) .notRecord
  | union : Complains (.shape .union) .notRecord
  | tuple : Complains (.shape .tuple) .unnamedFields
  | unit : Complains (.shape .unit) .unnamedFields
  | bareRule : Complains (.ruleAttribute .bare) (.noArguments "rule")
  | assignedRule : Complains (.ruleAttribute .assigned) (.noBrackets "rule")
  | unknownRuleName {argument : Argument}
      (other : argument.name ∉ ["key", "label", "rules"]) :
      Complains (.ruleArgument argument) .expectedRuleArgument
  | ruleValue {argument : Argument} {fault : Fault}
      (named : argument.name ∈ ["key", "label", "rules"])
      (lacks : argument.value.Lacks fault) :
      Complains (.ruleArgument argument) fault
  | flawedList (flaw : Flaw) : Complains (.listEnd (some flaw)) (.badList flaw)
  | noRules {names : List String} (absent : "rules" ∉ names) :
      Complains (.requiredRules names) .missingRules
  | emptyKey {arguments : List Argument} {argument : Argument}
      (last : LastSuch (·.name = "key") arguments argument)
      (empty : argument.value = .text "") :
      Complains (.finalKey arguments) .emptyKey

def Place.Defective (place : Place) : Prop :=
  ∃ fault, place.Complains fault

def Listing.places (listing : Listing) (place : Argument → Place) :
    List Place :=
  listing.arguments.map place ++ [.listEnd listing.flaw?]

def Arguments.modulePlaces : Arguments → List Place
  | .none => [.moduleAttribute .bare]
  | .assigned => [.moduleAttribute .assigned]
  | .bracketed lexemes =>
      .moduleAttribute .bracketed ::
        (Lexeme.listing lexemes).places .moduleArgument

def Attribute.modulePlaces (item : Attribute) : List Place :=
  if item.path = "validatable" then item.arguments.modulePlaces else []

def endPlaces (arguments : List Argument) : List Place :=
  [.requiredRules (arguments.map (·.name)), .finalKey arguments]

/-- The places of a `rule` attribute.  A text that stands alone in its brackets
is no argument with a name. -/
def Arguments.rulePlaces : Arguments → List Place
  | .none => [.ruleAttribute .bare]
  | .assigned => [.ruleAttribute .assigned]
  | .bracketed lexemes =>
      .ruleAttribute .bracketed ::
        match Lexeme.alone? lexemes with
        | .some _ => []
        | .none =>
            (Lexeme.listing lexemes).places .ruleArgument ++
              endPlaces (Lexeme.listing lexemes).arguments

/-- All places of a declaration, in the order of the source: its `validatable`
attributes, its shape, and the `rule` attributes of one field after the
other. -/
def Declaration.places (declaration : Declaration) : List Place :=
  declaration.attributes.flatMap Attribute.modulePlaces ++
    .shape declaration.shape ::
      declaration.ruleAttributes.flatMap (·.2.rulePlaces)

/-- The complaint about places in a row is that of the first defective one. -/
def FirstComplaint (places : List Place) (fault : Fault) : Prop :=
  ∃ place, FirstSuch Place.Defective places place ∧ place.Complains fault

section Complaints

variable {place : Place} {places others : List Place} {fault : Fault}

theorem ArgumentValue.Lacks.unique {value : ArgumentValue} {other : Fault}
    (left : value.Lacks fault) (right : value.Lacks other) : fault = other := by
  cases left <;> cases right <;> rfl

/-- At most one thing is wrong at a place. -/
theorem Place.Complains.unique {other : Fault} (left : place.Complains fault)
    (right : place.Complains other) : fault = other := by
  cases left with
  | bareModule | assignedModule | enumeration | union | tuple | unit
  | bareRule | assignedRule | flawedList | noRules | emptyKey =>
      cases right
      rfl
  | unknownModuleName unknown =>
      cases right with
      | unknownModuleName => rfl
      | moduleValue named | modulePath named => exact absurd named unknown
  | moduleValue named lacks =>
      cases right with
      | unknownModuleName unknown => exact absurd named unknown
      | moduleValue _ otherLacks => exact lacks.unique otherLacks
      | modulePath _ given => rw [given] at lacks; cases lacks
  | modulePath named given unread =>
      cases right with
      | unknownModuleName unknown => exact absurd named unknown
      | moduleValue _ lacks => rw [given] at lacks; cases lacks
      | modulePath _ otherGiven otherUnread =>
          rw [given, ArgumentValue.text.injEq] at otherGiven
          rw [otherGiven, otherUnread, Except.error.injEq] at unread
          rw [unread]
  | unknownRuleName unknown =>
      cases right with
      | unknownRuleName => rfl
      | ruleValue named => exact absurd named unknown
  | ruleValue named lacks =>
      cases right with
      | unknownRuleName unknown => exact absurd named unknown
      | ruleValue _ otherLacks => exact lacks.unique otherLacks

theorem firstComplaint_nil : ¬ FirstComplaint [] fault := by
  intro complaint
  obtain ⟨place, first, _⟩ := complaint
  exact not_firstSuch_nil first

theorem exists_firstComplaint_iff :
    (∃ fault, FirstComplaint places fault) ↔
      ∃ place ∈ places, place.Defective := by
  constructor
  · intro described
    obtain ⟨_, place, first, _⟩ := described
    exact ⟨place, first.mem, first.has⟩
  · intro described
    obtain ⟨place, first⟩ := exists_firstSuch_iff.mpr described
    obtain ⟨fault, complains⟩ := first.has
    exact ⟨fault, place, first, complains⟩

end Complaints

/-- A computation that checks places in a row: it fails with their first
complaint, and succeeds when there is none. -/
def Checks {α : Type} (result : Except Fault α) (places : List Place) : Prop :=
  ∀ fault, result = .error fault ↔ FirstComplaint places fault

namespace Checks

variable {α β : Type} {result : Except Fault α} {places others : List Place}
  {place : Place} {value : α}

theorem ok (value : α) : Checks (.ok value) [] := by
  intro fault
  simp [firstComplaint_nil]

theorem sound (checks : Checks result places) (success : result = .ok value) :
    ∀ place ∈ places, ¬ place.Defective := by
  intro place inside defective
  obtain ⟨fault, complaint⟩ :=
    exists_firstComplaint_iff.mpr ⟨place, inside, defective⟩
  have failed := (checks fault).mpr complaint
  rw [success] at failed
  contradiction

theorem map (checks : Checks result places) (function : α → β) :
    Checks (result.map function) places := by
  intro fault
  rw [← checks fault]
  cases result <;> simp [Except.map]

end Checks

section Reading

variable {argument : Argument} {arguments : List Argument}
  {attributes : List Attribute} {value : ArgumentValue} {fault : Fault}

end Reading

section ShortForm

variable {content : String} {next : Lexeme} {rest : List Lexeme}

end ShortForm

end FieldCheck.Binding
