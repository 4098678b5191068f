import FieldCheck.Proofs.ReportViews
import FieldCheck.Validator.Session

/-!
# What own checks record

A check of one's own names a field and sets templates for it.  A row of such
checks is described by the templates that they set, one after the other: a
field that has a message keeps it, and any other field gets its message from
the first template set for it.
-/

namespace FieldCheck.Validator

/-- A check of one's own, with the templates that it sets. -/
structure OwnCheck where
  field : String
  label : String
  templates : List String

namespace OwnCheck

def displayLabel (check : OwnCheck) : String :=
  if check.label.isEmpty then check.field else check.label

def operation (check : OwnCheck) : Operation :=
  .checkOwn check.field check.label check.templates

/-- The templates that checks set, each with its check, in order. -/
def sets (checks : List OwnCheck) : List (OwnCheck × String) :=
  checks.flatMap
    (fun check => check.templates.map (fun template => (check, template)))

def entry (set : OwnCheck × String) : String × Message :=
  (set.1.field, Message.render set.2 set.1.displayLabel none)

end OwnCheck

def afterChecks (validator : Validator) (checks : List OwnCheck) : Validator :=
  validator.afterAll (checks.map OwnCheck.operation)

section Checks

variable {validator : Validator} {check : OwnCheck} {checks : List OwnCheck}
  {key : String} {message : Message}

/-- One check records its templates and changes nothing else. -/
theorem after_operation :
    validator.after check.operation =
      { validator with
        report := validator.report.recordAll
          ((OwnCheck.sets [check]).map OwnCheck.entry) } := by
  unfold OwnCheck.sets
  rw [List.flatMap_singleton, List.map_map]
  rfl

theorem afterChecks_eq :
    validator.afterChecks checks =
      { validator with
        report := validator.report.recordAll
          ((OwnCheck.sets checks).map OwnCheck.entry) } := by
  induction checks generalizing validator with
  | nil => rfl
  | cons check checks induction =>
      have first : OwnCheck.sets (check :: checks) =
          OwnCheck.sets [check] ++ OwnCheck.sets checks := by
        simp [OwnCheck.sets]
      calc
        validator.afterChecks (check :: checks) =
            (validator.after check.operation).afterChecks checks := rfl
        _ = { validator with
              report := (validator.report.recordAll
                ((OwnCheck.sets [check]).map OwnCheck.entry)).recordAll
                  ((OwnCheck.sets checks).map OwnCheck.entry) } := by
            rw [induction, after_operation]
        _ = _ := by
            rw [first, List.map_append, Report.recordAll_append]

theorem get?_afterChecks :
    (validator.afterChecks checks).report.get? key =
      (validator.report.get? key).or
        (((OwnCheck.sets checks).map OwnCheck.entry).lookup key) := by
  rw [afterChecks_eq]
  exact Report.get?_recordAll _ _ key

theorem lookup_entries_eq_some_iff :
    ((OwnCheck.sets checks).map OwnCheck.entry).lookup key = some message ↔
      ∃ check template,
        FirstSuch (fun set => set.1.field = key) (OwnCheck.sets checks)
          (check, template) ∧
        message = Message.render template
          (if check.label.isEmpty then key else check.label) none := by
  rw [lookup_eq_some_iff_firstSuch, firstSuch_map]
  constructor
  · intro described
    obtain ⟨⟨check, template⟩, first, same⟩ := described
    obtain ⟨rfl, rfl⟩ := Prod.mk.inj same
    exact ⟨check, template, first, rfl⟩
  · intro described
    obtain ⟨check, template, first, rfl⟩ := described
    obtain rfl : check.field = key := first.has
    exact ⟨(check, template), first, rfl⟩

theorem exists_set_iff :
    (∃ set ∈ OwnCheck.sets checks, set.1.field = key) ↔
      ∃ check ∈ checks, check.field = key ∧ check.templates ≠ [] := by
  unfold OwnCheck.sets
  constructor
  · intro described
    obtain ⟨⟨check, template⟩, member, rfl⟩ := described
    obtain ⟨origin, isCheck, isSet⟩ := List.mem_flatMap.mp member
    obtain ⟨_, inTemplates, same⟩ := List.mem_map.mp isSet
    obtain ⟨rfl, rfl⟩ := Prod.mk.inj same
    exact ⟨origin, isCheck, rfl, List.ne_nil_of_mem inTemplates⟩
  · intro described
    obtain ⟨check, member, rfl, nonempty⟩ := described
    obtain ⟨template, inTemplates⟩ := List.exists_mem_of_ne_nil _ nonempty
    exact ⟨(check, template), List.mem_flatMap.mpr
      ⟨check, member, List.mem_map_of_mem inTemplates⟩, rfl⟩

end Checks

/-- What a row of own checks leaves.  A message that was there stays.  A field
without one gains one exactly when a check of this field sets a template, and
then the first template set for the field words it, under the label of the
check that set it or under the key if this label is empty.  Nothing but the
report changes. -/
theorem report_of_own_checks (validator : Validator)
    (checks : List OwnCheck) :
    (∀ key message, validator.report.get? key = some message →
      (validator.afterChecks checks).report.get? key = some message) ∧
    (∀ key, validator.report.get? key = none →
      ((∃ message,
          (validator.afterChecks checks).report.get? key = some message) ↔
        ∃ check ∈ checks, check.field = key ∧ check.templates ≠ []) ∧
      ∀ message,
        (validator.afterChecks checks).report.get? key = some message ↔
          ∃ check template,
            FirstSuch (fun set => set.1.field = key) (OwnCheck.sets checks)
              (check, template) ∧
            message = Message.render template
              (if check.label.isEmpty then key else check.label) none) ∧
    (validator.afterChecks checks).settings = validator.settings ∧
    (validator.afterChecks checks).catalog = validator.catalog ∧
    (validator.afterChecks checks).ownMessages = validator.ownMessages := by
  refine ⟨?_, ?_, ?_⟩
  · intro key message found
    rw [get?_afterChecks, found, Option.some_or]
  · intro key absent
    have worded : ∀ message,
        (validator.afterChecks checks).report.get? key = some message ↔
          ∃ check template,
            FirstSuch (fun set => set.1.field = key) (OwnCheck.sets checks)
              (check, template) ∧
            message = Message.render template
              (if check.label.isEmpty then key else check.label) none := by
      intro message
      rw [get?_afterChecks, absent, Option.none_or, lookup_entries_eq_some_iff]
    refine ⟨?_, worded⟩
    simp only [worded]
    rw [← exists_set_iff, ← exists_firstSuch_iff]
    constructor
    · intro described
      obtain ⟨_, check, template, first, _⟩ := described
      exact ⟨(check, template), first⟩
    · intro described
      obtain ⟨⟨check, template⟩, first⟩ := described
      exact ⟨_, check, template, first, rfl⟩
  · rw [afterChecks_eq]
    exact ⟨rfl, rfl, rfl⟩

/-- A failed rule is not reworded; and of three checks of another field the
first sets no template and the last one comes too late. -/
theorem report_of_own_checks_terms :
    let passed := (Validator.standard.tryValidate
      [⟨"name", "Name", .text "", "required"⟩]).2
    let accepted := "$\x7blabel\x7d must be accepted"
    let unnamed : OwnCheck := ⟨"terms", "", [accepted, "ignored"]⟩
    let checks : List OwnCheck :=
      [⟨"name", "", ["taken"]⟩, ⟨"terms", "Terms", []⟩, unnamed,
        ⟨"terms", "Terms", ["late"]⟩]
    let failure : Message :=
      ⟨"Name cannot be empty", "$\x7blabel\x7d cannot be empty"⟩
    passed.report.get? "name" = some failure ∧
      passed.report.get? "terms" = none ∧
      (passed.afterChecks checks).report.get? "name" = some failure ∧
      (passed.afterChecks checks).report.get? "terms" =
        some ⟨"terms must be accepted", accepted⟩ := by
  intro passed accepted unnamed checks failure
  have found : passed.report.get? "name" = some failure := by decide
  have absent : passed.report.get? "terms" = none := by decide
  have first : FirstSuch (fun set => set.1.field = "terms")
      (OwnCheck.sets checks) (unnamed, accepted) :=
    ⟨[(⟨"name", "", ["taken"]⟩, "taken")],
      [(unnamed, "ignored"), (⟨"terms", "Terms", ["late"]⟩, "late")], rfl, rfl,
      by simp⟩
  obtain ⟨kept, gained, _⟩ := report_of_own_checks passed checks
  exact ⟨found, absent, kept "name" failure found,
    ((gained "terms" absent).2 _).mpr
      ⟨unnamed, accepted, first, by decide⟩⟩

end FieldCheck.Validator
