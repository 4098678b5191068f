import FieldCheck.Proofs.PassCorrectness
import Mathlib.Data.List.Forall2

/-!
# Verdicts do not depend on wording

Two passes run side by side over records that differ in labels only, on
validators that differ in everything but the policy on numbers.  They take the
same steps, stop at the same fault and find failures under the same keys.
Under a key for which the templates and the labels agree they even leave the
same message, whatever differs under other keys.
-/

namespace FieldCheck

/-- Fields that differ in their labels at most. -/
structure Field.SameButLabel (left right : Field) : Prop where
  key : left.key = right.key
  value : left.value = right.value
  rules : left.rules = right.rules

namespace Field.SameButLabel

variable {left right : Field}

theorem kind (same : SameButLabel left right) : left.kind = right.kind :=
  congrArg Value.kind same.value

theorem verdict (same : SameButLabel left right) (presence : Presence) :
    left.verdict presence = right.verdict presence := by
  have sameStep : ∀ valueClass token,
      left.step presence valueClass token =
        right.step presence valueClass token := by
    intro valueClass token
    unfold step
    rw [same.key, same.value]
  have sameSteps : ∀ valueClass,
      left.steps presence valueClass = right.steps presence valueClass := by
    intro valueClass
    unfold steps
    rw [same.rules]
    exact List.map_congr_left (fun token _ => sameStep valueClass token)
  have sameClass : left.testedClass? = right.testedClass? := by
    unfold testedClass? hasRules
    rw [same.rules, same.kind]
  unfold Field.verdict
  simp only [sameClass, sameSteps]

end Field.SameButLabel

theorem Field.name_mem_vocabulary_of_stated {field : Field}
    {valueClass : ValueClass} {rule : Rule}
    (stated : rule ∈ field.stated valueClass) :
    rule.name ∈ valueClass.vocabulary := by
  obtain ⟨_, _, read⟩ := List.mem_filterMap.mp stated
  exact ValueClass.name_mem_vocabulary read

theorem Field.displayLabel_congr {left right : Field}
    (sameKey : left.key = right.key) (sameLabel : left.label = right.label) :
    left.displayLabel = right.displayLabel := by
  unfold Field.displayLabel
  rw [sameKey, sameLabel]

namespace Validator

/-- Two validators give the same templates to the failures of a key, in so far
as the rules exist for the class of the value. -/
def SameTemplates (left right : Validator) (key : String) : Prop :=
  ∀ valueClass, ∀ name ∈ ValueClass.vocabulary valueClass,
    left.template key valueClass name = right.template key valueClass name

/-- Two runs are in step.  Failures have been found under the same keys so far;
under the keys that are worded alike the messages are the same. -/
structure InStep (alike : String → Prop) (left right : Validator) : Prop where
  presence : left.settings.presence = right.settings.presence
  templates : ∀ key, alike key → SameTemplates left right key
  found : ∀ key, left.report.contains key = right.report.contains key
  messages : ∀ key, alike key →
    left.report.get? key = right.report.get? key

section Runs

variable {alike : String → Prop} {left right : Validator}
  {leftField rightField : Field} {lefts rights : List Field}

theorem InStep.cleared (presence : left.settings.presence =
      right.settings.presence)
    (templates : ∀ key, alike key → SameTemplates left right key) :
    InStep alike left.cleared right.cleared where
  presence := presence
  templates := templates
  found := fun _ => rfl
  messages := fun _ _ => rfl

theorem contains_recorded {validator : Validator} {field key : String}
    {message : Message} :
    (validator.recorded field message).report.contains key =
      (decide (key = field) || validator.report.contains key) := by
  unfold Report.contains Dictionary.contains
  change ((validator.report.record field message).get? key).isSome = _
  rw [Report.get?_record]
  by_cases here : key = field <;> simp [here, Report.get?]

theorem InStep.recorded (inStep : InStep alike left right) {field : String}
    {leftMessage rightMessage : Message}
    (sameMessage : alike field → leftMessage = rightMessage) :
    InStep alike (left.recorded field leftMessage)
      (right.recorded field rightMessage) where
  presence := inStep.presence
  templates := inStep.templates
  found := by
    intro key
    rw [contains_recorded, contains_recorded, inStep.found key]
  messages := by
    intro key isAlike
    have before := inStep.messages key isAlike
    change (left.report.record field leftMessage).get? key =
      (right.report.record field rightMessage).get? key
    rw [Report.get?_record, Report.get?_record]
    by_cases here : key = field
    · subst here
      rw [if_pos rfl, if_pos rfl, before, sameMessage isAlike]
    · rw [if_neg here, if_neg here, before]

theorem failure_congr {valueClass : ValueClass} {rule : Rule}
    (known : rule.name ∈ valueClass.vocabulary)
    (sameKey : leftField.key = rightField.key)
    (sameLabel : leftField.label = rightField.label)
    (templates : SameTemplates left right rightField.key) :
    left.failure leftField valueClass rule =
      right.failure rightField valueClass rule := by
  unfold failure
  rw [sameKey, templates valueClass rule.name known,
    Field.displayLabel_congr sameKey sameLabel]

/-- Two runs that are in step end in the same way and stay in step: they take
the same verdict on every field and record under the same key. -/
theorem InStep.scan (inStep : InStep alike left right)
    (same : List.Forall₂
      (fun leftField rightField =>
        Field.SameButLabel leftField rightField ∧
          (alike rightField.key → leftField.label = rightField.label))
      lefts rights) :
    (left.scan lefts).1 = (right.scan rights).1 ∧
      InStep alike (left.scan lefts).2 (right.scan rights).2 := by
  induction same generalizing left right with
  | nil => exact ⟨rfl, inStep⟩
  | @cons leftField rightField lefts rights head _ induction =>
      obtain ⟨sameField, sameLabel⟩ := head
      have sameVerdict :
          leftField.verdict left.settings.presence =
            rightField.verdict right.settings.presence := by
        rw [inStep.presence]
        exact sameField.verdict right.settings.presence
      unfold Validator.scan check
      rw [sameVerdict]
      cases judged : rightField.verdict right.settings.presence with
      | error fault =>
          exact ⟨rfl, .cleared inStep.presence inStep.templates⟩
      | ok found? =>
          cases found? with
          | none => exact induction inStep
          | some broken =>
              obtain ⟨valueClass, rule⟩ := broken
              obtain ⟨_, first, _⟩ := Field.verdict_eq_ok_some_iff.mp judged
              have known := Field.name_mem_vocabulary_of_stated first.mem
              simp only [Except.map, Option.map_some, sameField.key]
              apply induction
              apply inStep.recorded
              intro isAlike
              exact failure_congr known sameField.key (sameLabel isAlike)
                (inStep.templates rightField.key isAlike)

theorem tryValidate_inStep (alike : String → Prop)
    (presence : left.settings.presence = right.settings.presence)
    (templates : ∀ key, alike key → SameTemplates left right key)
    (same : List.Forall₂ Field.SameButLabel lefts rights)
    (labels : List.Forall₂
      (fun leftField rightField =>
        alike rightField.key → leftField.label = rightField.label)
      lefts rights) :
    (left.tryValidate lefts).1 = (right.tryValidate rights).1 ∧
      InStep alike (left.tryValidate lefts).2 (right.tryValidate rights).2 := by
  apply (InStep.cleared presence templates).scan
  exact List.Forall₂.mp (fun _ _ => And.intro) same labels

end Runs

/-- Wording has no part in verdicts.  Passes over records that differ in labels
only, on validators with the same policy on numbers, come to the same result
and find failures under the same keys; and the message under a key is the same
when the templates for this key and the labels of its fields agree. -/
theorem verdicts_of_wordings {left right : Validator}
    {lefts rights : List Field}
    (presence : left.settings.presence = right.settings.presence)
    (same : List.Forall₂ Field.SameButLabel lefts rights) :
    (left.tryValidate lefts).1 = (right.tryValidate rights).1 ∧
    (∀ key, (left.tryValidate lefts).2.report.contains key =
      (right.tryValidate rights).2.report.contains key) ∧
    (∀ key, SameTemplates left right key →
      List.Forall₂
        (fun leftField rightField =>
          rightField.key = key → leftField.label = rightField.label)
        lefts rights →
      (left.tryValidate lefts).2.report.get? key =
        (right.tryValidate rights).2.report.get? key) := by
  have noLabels : List.Forall₂
      (fun leftField rightField : Field =>
        False → leftField.label = rightField.label) lefts rights :=
    same.imp (fun _ _ _ => False.elim)
  obtain ⟨sameResult, inStep⟩ :=
    tryValidate_inStep (fun _ => False) presence (fun _ => False.elim) same
      noLabels
  refine ⟨sameResult, inStep.found, ?_⟩
  intro key templates labels
  have templatesHere : ∀ other, other = key →
      SameTemplates left right other := by
    intro other isKey
    rw [isKey]
    exact templates
  obtain ⟨_, inStepHere⟩ :=
    tryValidate_inStep (· = key) presence templatesHere same labels
  exact inStepHere.messages key rfl

/-- The templates for `age` agree, one from the field and one from the
catalog; those for `name` and the labels there do not. -/
theorem verdicts_of_wordings_age :
    let left : Validator :=
      Validator.standard.withOwnMessages "age" [("alpha", "letters only")]
    let right : Validator :=
      (Validator.standard.withCatalog
        (Message.Catalog.standard.set .alpha "letters only")).checkOwn
          "age" "" ["old"]
    let lefts : List Field :=
      [⟨"name", "Name", .text "Bob1", "alpha"⟩,
        ⟨"age", "Age", .integer 3, "min=18"⟩]
    let rights : List Field :=
      [⟨"name", "", .text "Bob1", "alpha"⟩,
        ⟨"age", "Age", .integer 3, "min=18"⟩]
    (∀ key, (left.tryValidate lefts).2.report.contains key =
      (right.tryValidate rights).2.report.contains key) ∧
    (left.tryValidate lefts).2.report.get? "age" =
      (right.tryValidate rights).2.report.get? "age" := by
  intro left right lefts rights
  have presence : left.settings.presence = right.settings.presence := rfl
  have same : List.Forall₂ Field.SameButLabel lefts rights :=
    .cons ⟨rfl, rfl, rfl⟩ (.cons ⟨rfl, rfl, rfl⟩ .nil)
  have labels : List.Forall₂
      (fun leftField rightField : Field =>
        rightField.key = "age" → leftField.label = rightField.label)
      lefts rights :=
    .cons (fun isAge => absurd isAge (by decide)) (.cons (fun _ => rfl) .nil)
  have templates : SameTemplates left right "age" := by
    intro valueClass name _
    cases valueClass <;> cases name <;> rfl
  obtain ⟨_, found, messages⟩ := verdicts_of_wordings presence same
  exact ⟨found, messages "age" templates labels⟩

end Validator

end FieldCheck
