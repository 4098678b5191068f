import FieldCheck.Proofs.PassAdequacy

/-!
# Correctness of a validation pass

The two outcomes of a pass.  A pass that comes to its end leaves exactly the
messages that the fields call for, and nothing of an older report.  A pass that
meets a defective field is stopped there and leaves an empty report, even when
earlier fields have failed.
-/

namespace FieldCheck.Validator

theorem completed_iff {validator : Validator} {fields : List Field} :
    (validator.tryValidate fields).1 = .ok () ↔
      ∀ field ∈ fields, ∀ fault,
        ¬ field.Defect validator.settings.presence fault := by
  rcases validator.firstDefect_or_sound fields with ⟨fault, first⟩ | sound
  · rw [tryValidate_of_firstDefect first]
    obtain ⟨field, isFirst, defect⟩ := first
    simp only [reduceCtorEq, false_iff]
    intro sound
    exact sound field isFirst.mem fault defect
  · rw [tryValidate_of_sound sound]
    simp only [true_iff]
    exact sound

theorem stopped_iff {validator : Validator} {fields : List Field}
    {fault : RuleFault} :
    (validator.tryValidate fields).1 = .error fault ↔
      validator.FirstDefect fields fault := by
  constructor
  · intro stopped
    rcases validator.firstDefect_or_sound fields with ⟨other, first⟩ | sound
    · rw [tryValidate_of_firstDefect first] at stopped
      cases stopped
      exact first
    · rw [tryValidate_of_sound sound] at stopped
      contradiction
  · intro first
    rw [tryValidate_of_firstDefect first]

theorem exists_firstDefect_iff {validator : Validator}
    {fields : List Field} :
    (∃ fault, validator.FirstDefect fields fault) ↔
      ∃ field ∈ fields, ∃ fault,
        field.Defect validator.settings.presence fault := by
  rw [← exists_firstSuch_iff]
  constructor
  · intro described
    obtain ⟨fault, field, first, _⟩ := described
    exact ⟨field, first⟩
  · intro described
    obtain ⟨field, first⟩ := described
    obtain ⟨fault, defect⟩ := first.has
    exact ⟨fault, field, first, defect⟩

theorem exists_callsFor_iff {validator : Validator} {fields : List Field}
    {key : String} :
    (∃ message, validator.CallsFor fields key message) ↔
      ∃ field ∈ fields, field.key = key ∧
        field.Fails validator.settings.presence := by
  rw [← exists_firstSuch_iff]
  constructor
  · intro described
    obtain ⟨message, field, _, _, _, first, _⟩ := described
    exact ⟨field, first⟩
  · intro described
    obtain ⟨field, first⟩ := described
    obtain ⟨valueClass, rule, broken⟩ :=
      Field.fails_iff_exists_firstBroken.mp first.has.2
    exact ⟨_, field, valueClass, rule, _, first, broken,
      words_iff.mpr rfl, rfl⟩

theorem errors?_eq_none_iff {validator : Validator} :
    validator.errors? = none ↔
      ∀ key, validator.report.get? key = none := by
  rw [← Report.isEmpty_iff]
  unfold errors? Report.nonEmpty?
  split <;> simp_all

/-- What a completed pass has found.  A key has an entry exactly when a field
with this key fails, and the entry is the message of the first such field on
the first rule that it breaks; fields that are not tested never fail. -/
theorem report_of_completed_pass (validator : Validator)
    (fields : List Field)
    (completed : (validator.tryValidate fields).1 = .ok ()) :
    (∀ key, (validator.tryValidate fields).2.report.contains key = true ↔
      ∃ field ∈ fields, field.key = key ∧
        field.Fails validator.settings.presence) ∧
    (∀ key message,
      (validator.tryValidate fields).2.report.get? key = some message ↔
        validator.CallsFor fields key message) ∧
    (∀ field : Field,
      field.hasRules = false ∨ field.kind.valueClass? = none →
        ¬ field.Fails validator.settings.presence) ∧
    ((validator.tryValidate fields).2.errors? = none ↔
      ∀ field ∈ fields, ¬ field.Fails validator.settings.presence) := by
  have sound := completed_iff.mp completed
  rw [tryValidate_of_sound sound]
  have readings : ∀ key message,
      (validator.gathered fields).get? key = some message ↔
        validator.CallsFor fields key message :=
    fun _ _ => get?_gathered_eq_some_iff sound
  refine ⟨?_, readings, fun _ => Field.not_fails_of_untested, ?_⟩
  · intro key
    rw [Report.contains_iff, ← exists_callsFor_iff]
    exact exists_congr (readings key)
  · rw [errors?_eq_none_iff]
    simp only [Option.eq_none_iff_forall_ne_some, ne_eq, readings]
    constructor
    · intro nothing field member fails
      obtain ⟨message, called⟩ :=
        exists_callsFor_iff.mpr ⟨field, member, rfl, fails⟩
      exact nothing field.key message called
    · intro noneFails key message called
      obtain ⟨field, member, _, fails⟩ :=
        exists_callsFor_iff.mp ⟨message, called⟩
      exact noneFails field member fails

/-- A key occurs twice and its first field passes one rule before it breaks
the next; the last field is of a kind that is not tested. -/
theorem report_of_completed_pass_repeated_key :
    let fields : List Field :=
      [⟨"name", "Name", .text "Bob1", "required, alpha ,max=2"⟩,
        ⟨"name", "", .text "", "required"⟩,
        ⟨"age", "", .integer (-3), "min=18"⟩,
        ⟨"done", "", .flag true, "required"⟩]
    (Validator.standard.tryValidate fields).1 = .ok () ∧
      (∀ key message,
        (Validator.standard.tryValidate fields).2.report.get? key =
            some message ↔
          Validator.standard.CallsFor fields key message) :=
  ⟨rfl, (report_of_completed_pass Validator.standard _ rfl).2.1⟩

/-- When a pass is stopped and what it leaves then.  The fault is that of the
first defective field; the report is emptied and everything else stays as it
was.  A pass that takes a fault for a programming error is stopped in the same
cases and leaves the same state. -/
theorem stopped_pass (validator : Validator) (fields : List Field) :
    ((∃ fault, (validator.tryValidate fields).1 = .error fault) ↔
      ∃ field ∈ fields, ∃ fault,
        field.Defect validator.settings.presence fault) ∧
    (∀ fault, (validator.tryValidate fields).1 = .error fault ↔
      validator.FirstDefect fields fault) ∧
    (∀ fault,
      validator.tryValidate fields =
          (.error fault, { validator with report := Report.empty }) ↔
        validator.FirstDefect fields fault) ∧
    (∀ complaint, (validator.validate fields).1 = .error complaint ↔
      ∃ fault, validator.FirstDefect fields fault ∧
        complaint = "invalid rule declaration: " ++ fault.message) ∧
    (validator.validate fields).2 = (validator.tryValidate fields).2 := by
  refine ⟨?_, fun fault => stopped_iff, ?_, ?_, rfl⟩
  · rw [← exists_firstDefect_iff]
    exact exists_congr (fun fault => stopped_iff)
  · intro fault
    constructor
    · intro result
      exact stopped_iff.mp (congrArg Prod.fst result)
    · exact tryValidate_of_firstDefect
  · intro complaint
    unfold validate Validator.complaint
    simp only [← stopped_iff]
    cases (validator.tryValidate fields).1 <;>
      simp [Except.mapError, eq_comm]

/-- A rule after the first broken one is not read, so its bound does no
harm. -/
example :
    (Validator.standard.tryValidate
      [⟨"code", "", .text "", "required,max=99999999999999999999"⟩]).1 =
      .ok () :=
  rfl

end FieldCheck.Validator
