import FieldCheck.Proofs.PassCorrectness

/-!
# Fields with one key

What a completed pass says under a key is a matter of the fields with this key
and of their order alone.  Fields with other keys may stand anywhere among
them; they matter only for whether the pass comes to its end, and for that no
order matters.
-/

namespace FieldCheck

def Field.under (key : String) (fields : List Field) : List Field :=
  fields.filter (fun field => field.key = key)

theorem Field.under_cons {key : String} {field : Field} {rest : List Field} :
    under key (field :: rest) =
      if field.key = key then field :: under key rest else under key rest := by
  unfold under
  rw [List.filter_cons]
  simp only [decide_eq_true_eq]

theorem Field.mem_of_mem_under {key : String} {field : Field}
    {fields : List Field} (member : field ∈ under key fields) :
    field ∈ fields :=
  (List.mem_filter.mp member).1

namespace Validator

variable {validator : Validator} {fields left right : List Field}
  {key : String}

/-- What is found on fields with other keys is of no account under a key. -/
theorem lookup_findings_under :
    (fields.filterMap validator.finding?).lookup key =
      ((Field.under key fields).filterMap validator.finding?).lookup key := by
  induction fields with
  | nil => rfl
  | cons field rest induction =>
      rw [Field.under_cons]
      cases found : validator.finding? field with
      | none =>
          rw [List.filterMap_cons_none found, induction]
          by_cases here : field.key = key
          · rw [if_pos here, List.filterMap_cons_none found]
          · rw [if_neg here]
      | some entry =>
          have entryKey : field.key = entry.1 :=
            (finding?_eq_some_iff.mp found).2
          rw [List.filterMap_cons_some found, List.lookup_cons, induction]
          by_cases here : field.key = key
          · rw [if_pos here, List.filterMap_cons_some found, List.lookup_cons]
          · have other : (key == entry.1) = false := by
              rw [← entryKey]
              exact beq_eq_false_iff_ne.mpr (Ne.symm here)
            rw [if_neg here, other]

theorem get?_gathered_under :
    (validator.gathered fields).get? key =
      (validator.gathered (Field.under key fields)).get? key := by
  unfold gathered
  rw [Report.get?_recordAll, Report.get?_recordAll, lookup_findings_under]

theorem report_of_completed
    (completed : (validator.tryValidate fields).1 = .ok ()) :
    (validator.tryValidate fields).2.report = validator.gathered fields := by
  rw [tryValidate_of_sound (completed_iff.mp completed)]

theorem completed_of_subset
    (completed : (validator.tryValidate fields).1 = .ok ())
    (subset : ∀ field ∈ left, field ∈ fields) :
    (validator.tryValidate left).1 = .ok () := by
  apply completed_iff.mpr
  intro field member
  exact completed_iff.mp completed field (subset field member)

theorem completed_under
    (completed : (validator.tryValidate fields).1 = .ok ()) :
    (validator.tryValidate (Field.under key fields)).1 = .ok () :=
  completed_of_subset completed (fun _ => Field.mem_of_mem_under)

/-- The entry of a key is the one that its own fields would have alone. -/
theorem get?_report_under
    (completed : (validator.tryValidate fields).1 = .ok ()) :
    (validator.tryValidate fields).2.report.get? key =
      (validator.tryValidate (Field.under key fields)).2.report.get? key := by
  rw [report_of_completed completed,
    report_of_completed (completed_under completed)]
  exact get?_gathered_under

theorem get?_report_congr
    (leftCompleted : (validator.tryValidate left).1 = .ok ())
    (rightCompleted : (validator.tryValidate right).1 = .ok ())
    (same : Field.under key left = Field.under key right) :
    (validator.tryValidate left).2.report.get? key =
      (validator.tryValidate right).2.report.get? key := by
  rw [get?_report_under leftCompleted, get?_report_under rightCompleted, same]

/-- Order and company of fields.  Passes over two records that come to their
ends leave the same entry under every key whose fields are the same in the same
order, and the same report if that is so for all keys.  Alone these fields make
a pass that comes to its end too and leaves the same entry.  Whether a pass
comes to its end does not depend on the order of the fields. -/
theorem report_of_fields_by_key (validator : Validator) :
    (∀ left right : List Field,
      (validator.tryValidate left).1 = .ok () →
      (validator.tryValidate right).1 = .ok () →
      (∀ key, Field.under key left = Field.under key right) →
        (validator.tryValidate left).2.report =
          (validator.tryValidate right).2.report) ∧
    (∀ (left right : List Field) key,
      (validator.tryValidate left).1 = .ok () →
      (validator.tryValidate right).1 = .ok () →
      Field.under key left = Field.under key right →
        (validator.tryValidate left).2.report.get? key =
          (validator.tryValidate right).2.report.get? key) ∧
    (∀ fields key,
      (validator.tryValidate fields).1 = .ok () →
        (validator.tryValidate (Field.under key fields)).1 = .ok () ∧
        (validator.tryValidate fields).2.report.get? key =
          (validator.tryValidate
            (Field.under key fields)).2.report.get? key) ∧
    (∀ left right : List Field, left.Perm right →
      ((validator.tryValidate left).1 = .ok () ↔
        (validator.tryValidate right).1 = .ok ())) := by
  refine ⟨?_, ?_, ?_, ?_⟩
  · intro left right leftCompleted rightCompleted same
    apply Report.ext_get?
    intro key
    exact get?_report_congr leftCompleted rightCompleted (same key)
  · intro left right key
    exact get?_report_congr
  · intro fields key completed
    exact ⟨completed_under completed, get?_report_under completed⟩
  · intro left right permuted
    constructor
    · intro completed
      exact completed_of_subset completed
        (fun _ member => permuted.mem_iff.mpr member)
    · intro completed
      exact completed_of_subset completed
        (fun _ member => permuted.mem_iff.mp member)

/-- Two fields with one key keep their order while a third one moves past
them. -/
theorem report_of_fields_by_key_moved :
    let before : List Field :=
      [⟨"name", "Name", .text "", "max=3"⟩,
        ⟨"name", "", .text "Bob1", "alpha"⟩,
        ⟨"age", "", .integer 3, "min=18"⟩]
    let after : List Field :=
      [⟨"age", "", .integer 3, "min=18"⟩,
        ⟨"name", "Name", .text "", "max=3"⟩,
        ⟨"name", "", .text "Bob1", "alpha"⟩]
    (Validator.standard.tryValidate before).1 = .ok () ∧
    (Validator.standard.tryValidate after).1 = .ok () ∧
    (∀ key, Field.under key before = Field.under key after) ∧
    (Validator.standard.tryValidate before).2.report =
      (Validator.standard.tryValidate after).2.report := by
  have same : ∀ key,
      Field.under key
          [⟨"name", "Name", .text "", "max=3"⟩,
            ⟨"name", "", .text "Bob1", "alpha"⟩,
            ⟨"age", "", .integer 3, "min=18"⟩] =
        Field.under key
          [⟨"age", "", .integer 3, "min=18"⟩,
            ⟨"name", "Name", .text "", "max=3"⟩,
            ⟨"name", "", .text "Bob1", "alpha"⟩] := by
    intro key
    by_cases isName : "name" = key
    · subst isName
      rfl
    · simp [Field.under_cons, isName]
  exact ⟨rfl, rfl, same,
    (report_of_fields_by_key Validator.standard).1 _ _ rfl rfl same⟩

end Validator

end FieldCheck
