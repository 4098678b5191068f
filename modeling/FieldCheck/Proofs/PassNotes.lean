import FieldCheck.Journal.Operation
import FieldCheck.Proofs.PassCorrectness
import FieldCheck.Proofs.ReportViews

/-!
# The notes of a pass

The notes of a pass come from the steps of the fields that it looks at, and
its report comes from their verdicts.  Both tell the same: the failures noted
are those found, one after the other, so the report can be read off the notes.
A pass that came to its end says last how many fields failed, and a stopped
one never says so.
-/

namespace FieldCheck

namespace Step

variable {steps : List Step}

/-- A step is taken when no step before it is decisive. -/
theorem mem_taken_iff {step : Step} :
    step ∈ taken steps ↔
      ∃ before after, steps = before ++ step :: after ∧
        ∀ earlier ∈ before, earlier.isDecisive = false := by
  induction steps with
  | nil => simp [taken]
  | cons head rest induction =>
      constructor
      · intro member
        by_cases decisive : head.isDecisive = true
        · rw [taken, if_pos decisive] at member
          obtain rfl := List.mem_singleton.mp member
          exact ⟨[], rest, rfl, by simp⟩
        · rw [taken, if_neg decisive] at member
          rcases List.mem_cons.mp member with rfl | inRest
          · exact ⟨[], rest, rfl, by simp⟩
          · obtain ⟨before, after, rfl, idle⟩ := induction.mp inRest
            refine ⟨head :: before, after, rfl, ?_⟩
            exact List.forall_mem_cons.mpr
              ⟨Bool.eq_false_iff.mpr decisive, idle⟩
      · intro described
        obtain ⟨before, after, split, idle⟩ := described
        cases before with
        | nil =>
            obtain ⟨rfl, rfl⟩ := List.cons.inj split
            unfold taken
            cases head.isDecisive <;> simp
        | cons first before =>
            obtain ⟨rfl, rfl⟩ := List.cons.inj split
            obtain ⟨headIdle, idle⟩ := List.forall_mem_cons.mp idle
            rw [taken, if_neg (Bool.eq_false_iff.mp headIdle)]
            exact List.mem_cons_of_mem _
              (induction.mpr ⟨before, after, rfl, idle⟩)

theorem failed_mem_taken_iff {rule : Rule} :
    .failed rule ∈ taken steps ↔ verdict steps = .ok (some rule) := by
  rw [mem_taken_iff, verdict_eq_ok_some_iff]
  simp [FirstSuch, isDecisive]

end Step

namespace Field

variable {presence : Presence} {valueClass : ValueClass} {field : Field}

theorem classified_of_tested
    (tested : field.testedClass? = some valueClass) :
    field.kind.valueClass? = some valueClass := by
  unfold testedClass? at tested
  exact (Option.ite_none_right_eq_some.mp tested).2

/-- The steps taken are those of the tokens that have only rules that pass
before them. -/
theorem mem_taken_steps_iff
    (classified : field.kind.valueClass? = some valueClass) {step : Step} :
    step ∈ Step.taken (field.steps presence valueClass) ↔
      ∃ before token after,
        Expression.tokens field.rules = before ++ token :: after ∧
        (∀ earlier ∈ before, ∀ rule,
          valueClass.rule? earlier = some rule →
            rule.Passes presence field.value) ∧
        field.step presence valueClass token = step := by
  rw [Step.mem_taken_iff]
  simp only [← step_isDecisive_eq_false_iff classified]
  unfold steps
  constructor
  · intro described
    obtain ⟨stepsBefore, stepsAfter, split, idle⟩ := described
    obtain ⟨before, rest, equal, rfl, restSteps⟩ :=
      List.map_eq_append_iff.mp split
    obtain ⟨token, after, rfl, isStep, _⟩ := List.map_eq_cons_iff.mp restSteps
    exact ⟨before, token, after, equal, List.forall_mem_map.mp idle, isStep⟩
  · intro described
    obtain ⟨before, token, after, equal, idle, rfl⟩ := described
    rw [equal, List.map_append, List.map_cons]
    exact ⟨_, _, rfl, List.forall_mem_map.mpr idle⟩

theorem verdict_eq_ok_some_iff_taken {rule : Rule} :
    field.verdict presence = .ok (some (valueClass, rule)) ↔
      field.testedClass? = some valueClass ∧
        .failed rule ∈ Step.taken (field.steps presence valueClass) := by
  unfold verdict
  cases tested : field.testedClass? with
  | none => simp
  | some actual =>
      simp only [exceptMap_eq_ok_iff, Option.map_eq_some_iff, Prod.mk.injEq,
        Option.some.injEq, Step.failed_mem_taken_iff]
      constructor
      · intro described
        obtain ⟨_, judged, found, rfl, rfl, rfl⟩ := described
        exact ⟨rfl, judged⟩
      · intro described
        obtain ⟨rfl, judged⟩ := described
        exact ⟨_, judged, rule, rfl, rfl, rfl⟩

end Field

def Journal.Note.failure? : Journal.Note → Option (String × String)
  | .failedRule key _ rendered => some (key, rendered)
  | .skippedField _ _ | .ignoredToken _ _ | .finished _ => none

namespace Validator

open Journal (Note)

/-- What is worth telling about a field, without the steps of its tokens: that
it declares rules but cannot be tested, a token that states no rule while all
rules before it pass, and the rule that is its verdict, with the message that
goes into the report. -/
inductive Noted (validator : Validator) (field : Field) : Note → Prop where
  | skipped (declared : field.hasRules = true)
      (unclassified : field.kind.valueClass? = none) :
      Noted validator field (.skippedField field.key field.kind)
  | ignored {valueClass : ValueClass} {before after : List String}
      {token : String} (tested : field.testedClass? = some valueClass)
      (split : Expression.tokens field.rules = before ++ token :: after)
      (passed : ∀ earlier ∈ before, ∀ rule,
        valueClass.rule? earlier = some rule →
          rule.Passes validator.settings.presence field.value)
      (unread : valueClass.rule? token = none) :
      Noted validator field (.ignoredToken field.key token)
  | failed {valueClass : ValueClass} {rule : Rule}
      (telling : validator.settings.logFailures = true)
      (judged : field.verdict validator.settings.presence =
        .ok (some (valueClass, rule))) :
      Noted validator field
        (.failedRule field.key rule.name
          (validator.failure field valueClass rule).rendered)

/-- The failures that the notes of a pass tell, in order. -/
def toldFailures (validator : Validator) (fields : List Field) :
    List (String × String) :=
  (validator.passNotes fields).filterMap Note.failure?

section Notes

variable {validator : Validator} {fields before after : List Field}
  {field : Field} {valueClass : ValueClass} {note : Note}

theorem fieldNotes_of_classified
    (classified : field.testedClass? = some valueClass) :
    validator.fieldNotes field =
      (Step.taken (field.steps validator.settings.presence valueClass)).flatMap
        (validator.stepNotes field valueClass) := by
  unfold Field.testedClass? at classified
  by_cases declared : field.hasRules = true
  · rw [if_pos declared] at classified
    simp [fieldNotes, declared, classified]
  · simp [declared] at classified

/-- A field that is not tested is noted when it declares rules all the
same. -/
theorem fieldNotes_of_untested (untested : field.testedClass? = none) :
    validator.fieldNotes field =
      if field.hasRules then [.skippedField field.key field.kind] else [] := by
  unfold Field.testedClass? at untested
  by_cases declared : field.hasRules = true
  · rw [if_pos declared] at untested
    simp [fieldNotes, declared, untested]
  · simp [fieldNotes, declared]

theorem mem_stepNotes_iff {step : Step} :
    note ∈ validator.stepNotes field valueClass step ↔
      (∃ token, step = .ignored token ∧
        note = .ignoredToken field.key token) ∨
      (validator.settings.logFailures = true ∧ ∃ rule, step = .failed rule ∧
        note = .failedRule field.key rule.name
          (validator.failure field valueClass rule).rendered) := by
  cases step with
  | ignored | passed | faulty => simp [stepNotes]
  | failed rule => simp [stepNotes]

theorem mem_fieldNotes_iff :
    note ∈ validator.fieldNotes field ↔ validator.Noted field note := by
  constructor
  · intro member
    cases tested : field.testedClass? with
    | none =>
        rw [fieldNotes_of_untested tested] at member
        obtain ⟨declared, isNote⟩ := List.mem_ite_nil_right.mp member
        obtain rfl := List.mem_singleton.mp isNote
        rw [Field.testedClass?, if_pos declared] at tested
        exact .skipped declared tested
    | some valueClass =>
        have classified := Field.classified_of_tested tested
        rw [fieldNotes_of_classified tested, List.mem_flatMap] at member
        obtain ⟨step, taken, isNote⟩ := member
        rcases mem_stepNotes_iff.mp isNote with
          ⟨token, rfl, rfl⟩ | ⟨telling, rule, rfl, rfl⟩
        · obtain ⟨before, _, after, split, passed, ignored⟩ :=
            (Field.mem_taken_steps_iff classified).mp taken
          obtain ⟨unread, rfl⟩ := Field.step_eq_ignored_iff.mp ignored
          exact .ignored tested split passed unread
        · refine .failed telling ?_
          exact Field.verdict_eq_ok_some_iff_taken.mpr ⟨tested, taken⟩
  · intro noted
    cases noted with
    | skipped declared unclassified =>
        simp [fieldNotes, declared, unclassified]
    | ignored tested split passed unread =>
        have classified := Field.classified_of_tested tested
        rw [fieldNotes_of_classified tested, List.mem_flatMap]
        refine ⟨_, (Field.mem_taken_steps_iff classified).mpr
          ⟨_, _, _, split, passed, rfl⟩, mem_stepNotes_iff.mpr (.inl ?_)⟩
        exact ⟨_, Field.step_eq_ignored_iff.mpr ⟨unread, rfl⟩, rfl⟩
    | failed telling judged =>
        obtain ⟨tested, taken⟩ := Field.verdict_eq_ok_some_iff_taken.mp judged
        rw [fieldNotes_of_classified tested, List.mem_flatMap]
        exact ⟨_, taken, mem_stepNotes_iff.mpr (.inr ⟨telling, _, rfl, rfl⟩)⟩

/-- The notes on the steps taken tell the failure that is their verdict. -/
theorem failures_of_steps (telling : validator.settings.logFailures = true)
    (steps : List Step) :
    ((Step.taken steps).flatMap
        (validator.stepNotes field valueClass)).filterMap Note.failure? =
      (Step.verdict steps).toOption.join.toList.map (fun rule =>
        (field.key, (validator.failure field valueClass rule).rendered)) := by
  induction steps with
  | nil => rfl
  | cons step rest induction =>
      cases step with
      | ignored token => exact induction
      | passed rule => exact induction
      | failed rule =>
          simp [Step.taken, Step.isDecisive, stepNotes, telling, Note.failure?,
            Step.verdict, Except.toOption]
      | faulty fault => rfl

theorem failures_fieldNotes (telling : validator.settings.logFailures = true) :
    (validator.fieldNotes field).filterMap Note.failure? =
      (validator.finding? field).toList.map
        (fun finding => (finding.1, finding.2.rendered)) := by
  cases tested : field.testedClass? with
  | none =>
      have nothing : validator.finding? field = none := by
        simp [finding?, check, Field.verdict, tested, Except.map]
      rw [fieldNotes_of_untested tested, nothing]
      cases field.hasRules <;> rfl
  | some valueClass =>
      rw [fieldNotes_of_classified tested, failures_of_steps telling]
      unfold finding? check Field.verdict
      rcases judged : Step.verdict
          (field.steps validator.settings.presence valueClass) with
        fault | (_ | rule) <;>
        simp [tested, judged, Except.map, Except.toOption]

theorem visited_of_sound
    (sound : ∀ field ∈ fields, ∀ fault,
      ¬ field.Defect validator.settings.presence fault) :
    validator.visited fields = fields := by
  induction fields with
  | nil => rfl
  | cons field rest induction =>
      obtain ⟨fieldSound, restSound⟩ := List.forall_mem_cons.mp sound
      unfold visited
      cases checked : validator.check field with
      | error fault =>
          exact absurd (check_eq_error_iff.mp checked) (fieldSound fault)
      | ok found? => exact congrArg (field :: ·) (induction restSound)

theorem visited_of_defect
    (sound : ∀ earlier ∈ before, ∀ fault,
      ¬ earlier.Defect validator.settings.presence fault)
    {fault : RuleFault}
    (defect : field.Defect validator.settings.presence fault) :
    validator.visited (before ++ field :: after) = before ++ [field] := by
  induction before with
  | nil =>
      simp only [List.nil_append, visited, check_eq_error_iff.mpr defect]
  | cons earlier rest induction =>
      obtain ⟨fieldSound, restSound⟩ := List.forall_mem_cons.mp sound
      rw [List.cons_append, visited]
      cases checked : validator.check earlier with
      | error fault =>
          exact absurd (check_eq_error_iff.mp checked) (fieldSound fault)
      | ok found? => exact congrArg (earlier :: ·) (induction restSound)

theorem toldFailures_eq_visited :
    validator.toldFailures fields =
      ((validator.visited fields).flatMap validator.fieldNotes).filterMap
        Note.failure? := by
  unfold toldFailures passNotes
  rcases validator.tryValidate fields with ⟨_ | _, _⟩ <;>
    simp [Note.failure?]

/-- The failures told are those found on the fields that the pass looks at. -/
theorem toldFailures_eq (telling : validator.settings.logFailures = true) :
    validator.toldFailures fields =
      ((validator.visited fields).filterMap validator.finding?).map
        (fun finding => (finding.1, finding.2.rendered)) := by
  rw [toldFailures_eq_visited, List.filterMap_flatMap,
    List.filterMap_eq_flatMap_toList, List.map_flatMap]
  simp only [failures_fieldNotes telling]

theorem toldFailures_of_silent
    (silent : validator.settings.logFailures = false) :
    validator.toldFailures fields = [] := by
  rw [toldFailures_eq_visited]
  apply List.filterMap_eq_nil_iff.mpr
  intro note member
  obtain ⟨field, _, noted⟩ := List.mem_flatMap.mp member
  cases mem_fieldNotes_iff.mp noted with
  | skipped | ignored => rfl
  | failed telling => simp [silent] at telling

theorem passNotes_of_sound
    (sound : ∀ field ∈ fields, ∀ fault,
      ¬ field.Defect validator.settings.presence fault) :
    validator.passNotes fields =
      fields.flatMap validator.fieldNotes ++
        [.finished (validator.gathered fields).size] := by
  unfold passNotes
  rw [tryValidate_of_sound sound, visited_of_sound sound]

theorem lookup_map_rendered {findings : List (String × Message)}
    {key : String} :
    (findings.map (fun finding => (finding.1, finding.2.rendered))).lookup key =
      (findings.lookup key).map Message.rendered := by
  induction findings with
  | nil => rfl
  | cons finding rest induction =>
      rw [List.map_cons, List.lookup_cons, List.lookup_cons, induction]
      cases key == finding.1 <;> rfl

end Notes

/-- What the notes on a pass that came to its end tell.  All fields are noted,
and then how many of them fail.  The first failure told for a key is the one
that the report holds there, in the same words, and the number at the end is
that of the keys told; without the setting no failure is told. -/
theorem notes_of_completed_pass {validator : Validator} {fields : List Field}
    (completed : (validator.tryValidate fields).1 = .ok ()) :
    validator.passNotes fields =
        fields.flatMap validator.fieldNotes ++
          [.finished (validator.tryValidate fields).2.report.size] ∧
      (validator.settings.logFailures = true →
        (∀ key,
          ((validator.tryValidate fields).2.report.get? key).map
              Message.rendered =
            (validator.toldFailures fields).lookup key) ∧
        (validator.tryValidate fields).2.report.size =
          ((validator.toldFailures fields).map Prod.fst).dedup.length) ∧
      (validator.settings.logFailures = false →
        validator.toldFailures fields = []) := by
  have sound := completed_iff.mp completed
  rw [tryValidate_of_sound sound]
  refine ⟨passNotes_of_sound sound, ?_, toldFailures_of_silent⟩
  intro telling
  rw [toldFailures_eq telling, visited_of_sound sound]
  unfold gathered
  constructor
  · intro key
    rw [Report.get?_recordAll, Report.get?_empty, Option.none_or,
      lookup_map_rendered]
  · rw [Report.size_recordAll_empty, List.map_map]
    rfl

/-- What the notes on a stopped pass tell: nothing of the fields after the
defective one, and no number of failing fields. -/
theorem notes_of_stopped_pass {validator : Validator} {fields : List Field}
    {fault : RuleFault}
    (stopped : (validator.tryValidate fields).1 = .error fault) :
    (∃ before field after,
      fields = before ++ field :: after ∧
        field.Defect validator.settings.presence fault ∧
        validator.passNotes fields =
          before.flatMap validator.fieldNotes ++ validator.fieldNotes field) ∧
      ∀ failing, .finished failing ∉ validator.passNotes fields := by
  obtain ⟨field, ⟨before, after, rfl, _, absent⟩, defect⟩ :=
    stopped_iff.mp stopped
  have sound : ∀ earlier ∈ before, ∀ fault,
      ¬ earlier.Defect validator.settings.presence fault :=
    fun earlier member fault defect => absent earlier member ⟨fault, defect⟩
  have notes : validator.passNotes (before ++ field :: after) =
      before.flatMap validator.fieldNotes ++ validator.fieldNotes field := by
    unfold passNotes
    rw [tryValidate_of_firstDefect (stopped_iff.mp stopped),
      visited_of_defect sound defect]
    simp
  refine ⟨⟨before, field, after, rfl, defect, notes⟩, ?_⟩
  intro failing member
  rw [notes, List.mem_append, List.mem_flatMap] at member
  rcases member with ⟨_, _, noted⟩ | noted <;>
    cases mem_fieldNotes_iff.mp noted

section Journals

variable {environment : Environment} {journal : Journal}

theorem admits_debug_of_trace
    (admitted : journal.admits .trace = true) :
    journal.admits .debug = true := by
  obtain ⟨threshold, setup?⟩ := journal
  cases threshold <;> first | rfl | contradiction

/-- Notes leave no trace in a journal that is closed to failed rules: none of
them has a higher level. -/
theorem written_tell_of_not_admits (notes : List Note)
    (closed : (journal.opened environment).admits .debug = false) :
    journal.written environment (.tell notes) = [] := by
  have refused : ∀ note : Note,
      (journal.opened environment).admits note.level = false := by
    intro note
    cases note with
    | failedRule | finished => exact closed
    | skippedField | ignoredToken =>
        apply Bool.eq_false_iff.mpr
        intro admitted
        rw [admits_debug_of_trace admitted] at closed
        contradiction
  apply List.filterMap_eq_nil_iff.mpr
  intro note _
  unfold Journal.entryOf?
  rw [refused note]
  rfl

/-- Every failure in the report of a pass that came to its end is written to an
open journal that admits it, with the words that the report has. -/
theorem exists_written_tell {validator : Validator} {fields : List Field}
    (completed : (validator.tryValidate fields).1 = .ok ())
    (telling : validator.settings.logFailures = true)
    (admitted : (journal.opened environment).admits .debug = true)
    {key : String} {message : Message}
    (found : (validator.tryValidate fields).2.report.get? key = some message) :
    ∃ rule, ∃ entry ∈
        journal.written environment (.tell (validator.passNotes fields)),
      entry.level = .debug ∧ entry.target = Note.target ∧
        entry.message =
          (Note.failedRule key rule message.rendered).message := by
  obtain ⟨readings, _⟩ := (notes_of_completed_pass completed).2.1 telling
  have told : (validator.toldFailures fields).lookup key =
      some message.rendered := by
    rw [← readings, found, Option.map_some]
  obtain ⟨note, noted, isFailure⟩ :=
    List.mem_filterMap.mp (lookup_eq_some_iff_firstSuch.mp told).mem
  cases note with
  | failedRule noteKey rule rendered =>
      obtain ⟨rfl, rfl⟩ := Prod.mk.inj (Option.some.inj isFailure)
      refine ⟨rule, _, List.mem_filterMap.mpr ⟨_, noted, if_pos admitted⟩, ?_⟩
      exact ⟨rfl, rfl, rfl⟩
  | skippedField | ignoredToken | finished => contradiction

/-- The last entry on a pass that came to its end tells the size of its
report. -/
theorem getLast?_written_tell {validator : Validator} {fields : List Field}
    (completed : (validator.tryValidate fields).1 = .ok ())
    (admitted : (journal.opened environment).admits .debug = true) :
    (journal.written environment
        (.tell (validator.passNotes fields))).getLast? =
      (journal.opened environment).entryOf? .debug Note.target
        (Note.finished
          (validator.tryValidate fields).2.report.size).message := by
  rw [(notes_of_completed_pass completed).1]
  show ((journal.opened environment).entries _).getLast? = _
  obtain ⟨entry, written⟩ : ∃ entry,
      (journal.opened environment).entryOf? .debug Note.target
        (Note.finished
          (validator.tryValidate fields).2.report.size).message = some entry :=
    ⟨_, if_pos admitted⟩
  rw [written, Journal.entries, List.filterMap_append, List.getLast?_append]
  simp only [List.filterMap_cons, Note.level, written]
  rfl

end Journals

end Validator

end FieldCheck
