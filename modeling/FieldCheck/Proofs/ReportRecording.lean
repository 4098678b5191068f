import FieldCheck.Proofs.FirstSuch
import FieldCheck.Report

/-!
# What recording leaves in a report

Recording message after message keeps the first one of every field.  The
readings of a report after any number of recordings are given by its readings
before and by the first messages among the new ones.
-/

namespace FieldCheck

theorem lookup_eq_some_iff_firstSuch {α : Type}
    {entries : List (String × α)} {key : String} {value : α} :
    entries.lookup key = some value ↔
      FirstSuch (fun entry => entry.1 = key) entries (key, value) := by
  rw [List.lookup_eq_some_iff]
  constructor
  · intro split
    obtain ⟨before, after, equal, absent⟩ := split
    refine ⟨before, after, equal, rfl, ?_⟩
    intro entry member same
    simpa [same] using absent entry member
  · intro first
    obtain ⟨before, after, equal, _, absent⟩ := first
    refine ⟨before, after, equal, ?_⟩
    intro entry member
    exact bne_iff_ne.mpr (Ne.symm (absent entry member))

namespace Report

@[simp] theorem get?_empty (field : String) : empty.get? field = none :=
  rfl

theorem contains_iff {report : Report} {field : String} :
    report.contains field = true ↔
      ∃ message, report.get? field = some message :=
  Option.isSome_iff_exists

theorem isEmpty_iff {report : Report} :
    report.isEmpty = true ↔ ∀ field, report.get? field = none := by
  obtain ⟨messages⟩ := report
  unfold isEmpty Dictionary.isEmpty get?
  rw [List.isEmpty_iff, List.eq_nil_iff_forall_not_mem]
  constructor
  · intro noEntry field
    apply Option.eq_none_iff_forall_ne_some.mpr
    intro message found
    exact noEntry (field, message)
      ((messages.mem_entries_iff field message).mpr found)
  · intro unread entry member
    obtain ⟨field, message⟩ := entry
    rw [messages.mem_entries_iff, unread field] at member
    contradiction

/-- Of the messages recorded for a field the first one stays, and one that was
there before stays in any case. -/
theorem get?_recordAll (report : Report)
    (failures : List (String × Message)) (field : String) :
    (report.recordAll failures).get? field =
      (report.get? field).or (failures.lookup field) := by
  induction failures generalizing report with
  | nil => simp [recordAll]
  | cons failure rest induction =>
      obtain ⟨key, message⟩ := failure
      calc
        (report.recordAll ((key, message) :: rest)).get? field =
            ((report.record key message).get? field).or
              (rest.lookup field) := induction (report.record key message)
        _ = (report.get? field).or
              (((key, message) :: rest).lookup field) := by
            rw [get?_record, List.lookup_cons]
            by_cases same : field = key
            · subst same
              cases report.get? field <;> simp
            · rw [if_neg same, beq_eq_false_iff_ne.mpr same]

end Report

end FieldCheck
