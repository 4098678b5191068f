import FieldCheck.Proofs.ReportRecording
import FieldCheck.Proofs.VerdictAdequacy
import FieldCheck.Validator

/-!
# What a pass leaves behind

A pass looks at the fields of a record one after the other.  What its report
holds is described here without the scan: under each key stands the message of
the first field with this key that fails, and a pass stops at the first
defective field and leaves nothing.
-/

namespace FieldCheck

namespace Validator

/-- A template is the field's own one for a rule: it is not empty and
registered for the field under the name of the rule. -/
def HasOwn (validator : Validator) (key : String) (name : RuleName)
    (own : String) : Prop :=
  own ≠ "" ∧ ∃ templates, validator.ownMessages.get? key = some templates ∧
    templates.get? name.text = some own

/-- The template for a rule on a field: the field's own one where there is
one, and otherwise that of the catalog. -/
inductive Words (validator : Validator) (key : String)
    (valueClass : ValueClass) (name : RuleName) : String → Prop where
  | own {own : String} (registered : validator.HasOwn key name own) :
      Words validator key valueClass name own
  | catalog (unregistered : ∀ own, ¬ validator.HasOwn key name own) :
      Words validator key valueClass name
        (validator.catalog.template (Message.Kind.ofRule name valueClass))

private theorem filter_own_eq_some_iff {validator : Validator}
    {key : String} {name : RuleName} {own : String} :
    ((validator.ownMessages.get? key).bind (·.get? name.text)).filter
        (fun own => !own.isEmpty) = some own ↔
      validator.HasOwn key name own := by
  simp [HasOwn, Option.filter_eq_some_iff, Option.bind_eq_some_iff, and_comm]

theorem words_iff {validator : Validator} {key : String}
    {valueClass : ValueClass} {name : RuleName} {template : String} :
    validator.Words key valueClass name template ↔
      template = validator.template key valueClass name := by
  unfold Validator.template
  cases chosen :
      ((validator.ownMessages.get? key).bind (·.get? name.text)).filter
        (fun own => !own.isEmpty) with
  | none =>
      have unregistered : ∀ own, ¬ validator.HasOwn key name own := by
        intro own registered
        rw [← filter_own_eq_some_iff, chosen] at registered
        contradiction
      constructor
      · intro words
        cases words with
        | own registered => exact absurd registered (unregistered _)
        | catalog _ => simp [chosen]
      · intro equal
        simp only [chosen] at equal
        exact equal ▸ .catalog unregistered
  | some own =>
      have registered := filter_own_eq_some_iff.mp chosen
      constructor
      · intro words
        cases words with
        | own other =>
            rw [← filter_own_eq_some_iff, chosen,
              Option.some.injEq] at other
            simp [chosen, other]
        | catalog unregistered => exact absurd registered (unregistered own)
      · intro equal
        simp only [chosen] at equal
        exact equal ▸ .own registered

/-- The message that fields call for under a key: that of the first field with
this key that fails, on the first rule that it breaks. -/
def CallsFor (validator : Validator) (fields : List Field) (key : String)
    (message : Message) : Prop :=
  ∃ field valueClass rule template,
    FirstSuch
      (fun field => field.key = key ∧
        field.Fails validator.settings.presence) fields field ∧
    field.FirstBroken validator.settings.presence valueClass rule ∧
    validator.Words key valueClass rule.name template ∧
    message = Message.render template field.displayLabel rule.literal?

/-- The fault that fields call for: that of the first defective field. -/
def FirstDefect (validator : Validator) (fields : List Field)
    (fault : RuleFault) : Prop :=
  ∃ field,
    FirstSuch
      (fun field => ∃ fault, field.Defect validator.settings.presence fault)
      fields field ∧
    field.Defect validator.settings.presence fault

section Passes

variable {validator : Validator} {fields : List Field} {field : Field}

theorem check_eq_error_iff {fault : RuleFault} :
    validator.check field = .error fault ↔
      field.Defect validator.settings.presence fault := by
  rw [← Field.verdict_eq_error_iff]
  exact exceptMap_eq_error_iff

theorem check_eq_ok_some_iff {message : Message} :
    validator.check field = .ok (some message) ↔
      ∃ valueClass rule,
        field.verdict validator.settings.presence =
          .ok (some (valueClass, rule)) ∧
        message = validator.failure field valueClass rule := by
  unfold check
  rw [exceptMap_eq_ok_iff]
  constructor
  · intro described
    obtain ⟨found?, judged, mapped⟩ := described
    obtain ⟨⟨valueClass, rule⟩, rfl, rfl⟩ :=
      Option.map_eq_some_iff.mp mapped
    exact ⟨valueClass, rule, judged, rfl⟩
  · intro described
    obtain ⟨valueClass, rule, judged, rfl⟩ := described
    exact ⟨_, judged, rfl⟩

theorem check_eq_ok_none_iff :
    validator.check field = .ok none ↔
      field.verdict validator.settings.presence = .ok none := by
  unfold check
  rw [exceptMap_eq_ok_iff]
  simp

/-- What a field adds to a report. -/
def finding? (validator : Validator) (field : Field) :
    Option (String × Message) :=
  match validator.check field with
  | .ok (some message) => some (field.key, message)
  | .ok none | .error _ => none

theorem finding?_eq_some_iff {entry : String × Message} :
    validator.finding? field = some entry ↔
      validator.check field = .ok (some entry.2) ∧ field.key = entry.1 := by
  obtain ⟨key, message⟩ := entry
  unfold finding?
  rcases validator.check field with fault | (_ | found)
  · simp
  · simp
  · simp [and_comm]

theorem check_eq_ok_some_iff_firstBroken {message : Message}
    (sound : ∀ fault, ¬ field.Defect validator.settings.presence fault) :
    validator.check field = .ok (some message) ↔
      ∃ valueClass rule template,
        field.FirstBroken validator.settings.presence valueClass rule ∧
        validator.Words field.key valueClass rule.name template ∧
        message =
          Message.render template field.displayLabel rule.literal? := by
  rw [check_eq_ok_some_iff]
  simp only [Field.firstBroken_iff sound, words_iff]
  constructor
  · intro described
    obtain ⟨valueClass, rule, judged, rfl⟩ := described
    exact ⟨valueClass, rule, _, judged, rfl, rfl⟩
  · intro described
    obtain ⟨valueClass, rule, _, judged, rfl, rfl⟩ := described
    exact ⟨valueClass, rule, judged, rfl⟩

theorem exists_check_eq_ok_some_iff
    (sound : ∀ fault, ¬ field.Defect validator.settings.presence fault) :
    (∃ message, validator.check field = .ok (some message)) ↔
      field.Fails validator.settings.presence := by
  rw [Field.fails_iff_exists_firstBroken]
  constructor
  · intro described
    obtain ⟨message, found⟩ := described
    obtain ⟨valueClass, rule, _, broken, _⟩ :=
      (check_eq_ok_some_iff_firstBroken sound).mp found
    exact ⟨valueClass, rule, broken⟩
  · intro described
    obtain ⟨valueClass, rule, broken⟩ := described
    exact ⟨_, check_eq_ok_some_iff.mpr
      ⟨valueClass, rule, (Field.firstBroken_iff sound).mp broken, rfl⟩⟩

/-- Fields without defects are all looked at, and what they add is recorded on
top of what is there. -/
theorem scan_of_sound
    (sound : ∀ field ∈ fields, ∀ fault,
      ¬ field.Defect validator.settings.presence fault) :
    validator.scan fields =
      (.ok (),
        { validator with
          report := validator.report.recordAll
            (fields.filterMap validator.finding?) }) := by
  induction fields generalizing validator with
  | nil => rfl
  | cons field rest induction =>
      obtain ⟨fieldSound, restSound⟩ := List.forall_mem_cons.mp sound
      rcases checked : validator.check field with fault | (_ | message)
      · exact absurd (check_eq_error_iff.mp checked) (fieldSound fault)
      · have nothing : validator.finding? field = none := by
          simp [finding?, checked]
        rw [List.filterMap_cons_none nothing]
        simpa only [scan, checked] using induction restSound
      · have something :
            validator.finding? field = some (field.key, message) := by
          simp [finding?, checked]
        have later :
            (validator.recorded field.key message).scan rest =
              (.ok (),
                { validator with
                  report :=
                    (validator.report.record field.key message).recordAll
                      (rest.filterMap validator.finding?) }) :=
          induction restSound
        rw [List.filterMap_cons_some something]
        simp only [scan, checked]
        exact later

theorem firstDefect_cons {rest : List Field} {fault : RuleFault} :
    validator.FirstDefect (field :: rest) fault ↔
      field.Defect validator.settings.presence fault ∨
        ((∀ fault, ¬ field.Defect validator.settings.presence fault) ∧
          validator.FirstDefect rest fault) := by
  unfold FirstDefect
  simp only [firstSuch_cons, not_exists]
  constructor
  · intro first
    obtain ⟨first, ⟨_, rfl⟩ | ⟨sound, inRest⟩, defect⟩ := first
    · exact .inl defect
    · exact .inr ⟨sound, first, inRest, defect⟩
  · intro described
    rcases described with defect | ⟨sound, first, inRest, defect⟩
    · exact ⟨field, .inl ⟨⟨fault, defect⟩, rfl⟩, defect⟩
    · exact ⟨first, .inr ⟨sound, inRest⟩, defect⟩

/-- The first defective field ends a scan, and nothing stays recorded. -/
theorem scan_of_firstDefect {fault : RuleFault}
    (first : validator.FirstDefect fields fault) :
    validator.scan fields = (.error fault, validator.cleared) := by
  induction fields generalizing validator with
  | nil =>
      obtain ⟨_, isFirst, _⟩ := first
      exact absurd isFirst not_firstSuch_nil
  | cons field rest induction =>
      rcases firstDefect_cons.mp first with defect | ⟨fieldSound, inRest⟩
      · simp only [scan, check_eq_error_iff.mpr defect]
      · rcases checked : validator.check field with other | (_ | message)
        · exact absurd (check_eq_error_iff.mp checked) (fieldSound other)
        · simpa only [scan, checked] using induction inRest
        · have later :
              (validator.recorded field.key message).scan rest =
                (.error fault, validator.cleared) :=
            induction inRest
          simp only [scan, checked]
          exact later

theorem firstDefect_or_sound (validator : Validator) (fields : List Field) :
    (∃ fault, validator.FirstDefect fields fault) ∨
      ∀ field ∈ fields, ∀ fault,
        ¬ field.Defect validator.settings.presence fault := by
  by_cases defective : ∃ field ∈ fields, ∃ fault,
      field.Defect validator.settings.presence fault
  · obtain ⟨field, first⟩ := exists_firstSuch_iff.mpr defective
    obtain ⟨fault, defect⟩ := first.has
    exact .inl ⟨fault, field, first, defect⟩
  · refine .inr ?_
    intro field member fault defect
    exact defective ⟨field, member, fault, defect⟩

/-- The report that a completed pass leaves. -/
def gathered (validator : Validator) (fields : List Field) : Report :=
  Report.empty.recordAll (fields.filterMap validator.finding?)

theorem tryValidate_of_sound
    (sound : ∀ field ∈ fields, ∀ fault,
      ¬ field.Defect validator.settings.presence fault) :
    validator.tryValidate fields =
      (.ok (), { validator with report := validator.gathered fields }) :=
  scan_of_sound sound

theorem tryValidate_of_firstDefect {fault : RuleFault}
    (first : validator.FirstDefect fields fault) :
    validator.tryValidate fields = (.error fault, validator.cleared) :=
  scan_of_firstDefect first

theorem get?_gathered_eq_some_iff
    (sound : ∀ field ∈ fields, ∀ fault,
      ¬ field.Defect validator.settings.presence fault)
    {key : String} {message : Message} :
    (validator.gathered fields).get? key = some message ↔
      validator.CallsFor fields key message := by
  have sameProperty : ∀ field ∈ fields,
      (∃ entry, validator.finding? field = some entry ∧ entry.1 = key) ↔
        field.key = key ∧ field.Fails validator.settings.presence := by
    intro field member
    rw [← exists_check_eq_ok_some_iff (sound field member)]
    constructor
    · intro described
      obtain ⟨⟨_, found⟩, isFound, rfl⟩ := described
      obtain ⟨checked, sameKey⟩ := finding?_eq_some_iff.mp isFound
      exact ⟨sameKey, found, checked⟩
    · intro described
      obtain ⟨rfl, found, checked⟩ := described
      exact ⟨(field.key, found), finding?_eq_some_iff.mpr ⟨checked, rfl⟩, rfl⟩
  unfold gathered CallsFor
  rw [Report.get?_recordAll, Report.get?_empty, Option.none_or,
    lookup_eq_some_iff_firstSuch, firstSuch_filterMap]
  simp only [firstSuch_congr sameProperty]
  constructor
  · intro described
    obtain ⟨field, first, isFound⟩ := described
    obtain ⟨checked, rfl⟩ := finding?_eq_some_iff.mp isFound
    obtain ⟨valueClass, rule, template, described⟩ :=
      (check_eq_ok_some_iff_firstBroken (sound field first.mem)).mp checked
    exact ⟨field, valueClass, rule, template, first, described⟩
  · intro described
    obtain ⟨field, valueClass, rule, template, first, broken, words, equal⟩ :=
      described
    obtain rfl : field.key = key := first.has.1
    have checked :=
      (check_eq_ok_some_iff_firstBroken (sound field first.mem)).mpr
        ⟨valueClass, rule, template, broken, words, equal⟩
    exact ⟨field, first, finding?_eq_some_iff.mpr ⟨checked, rfl⟩⟩

end Passes

end Validator

end FieldCheck
