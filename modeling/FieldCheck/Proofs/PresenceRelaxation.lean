import FieldCheck.Proofs.KeyLocality
import FieldCheck.Proofs.RuleConjunction

/-!
# Relaxing the policy on numbers

A looser policy lets more numbers count as present.  What a number obeys under
the stricter policy it obeys under the looser one, so fewer fields fail.  More
rules of a field are looked at before one of them is broken, however, so a
defective bound may come to light that a failure had hidden: the looser the
policy, the more passes are stopped.  Fields without numbers are judged alike.
-/

namespace FieldCheck

namespace Presence

/-- One policy asks more of a number than another: the positive numbers are
among those other than zero, and these among all. -/
inductive Stricter : Presence → Presence → Prop where
  | positive_nonZero : Stricter .positive .nonZero
  | nonZero_any : Stricter .nonZero .any
  | positive_any : Stricter .positive .any

theorem Stricter.demands {strict loose : Presence}
    (stricter : Stricter strict loose) {number : Int}
    (present : strict.Demands number) : loose.Demands number := by
  cases stricter with
  | positive_nonZero => exact ne_of_gt present
  | nonZero_any | positive_any => exact True.intro

end Presence

section Policies

variable {strict loose : Presence} {value : Value} {rule : Rule}
  {field : Field}

theorem Rule.Obeyed.relaxed (stricter : strict.Stricter loose)
    (obeyed : rule.Obeyed strict value) : rule.Obeyed loose value := by
  cases value with
  | integer number =>
      cases rule with
      | required => exact stricter.demands obeyed
      | alpha | email | len | min | max => exact obeyed
  | text | float | flag | unsupported => cases rule <;> exact obeyed

theorem Rule.Passes.relaxed (stricter : strict.Stricter loose)
    (passes : rule.Passes strict value) : rule.Passes loose value :=
  ⟨passes.inRange, passes.obeyed.relaxed stricter⟩

/-- What fails under the looser policy fails under the stricter one. -/
theorem Field.Fails.tightened (stricter : strict.Stricter loose)
    (fails : field.Fails loose) : field.Fails strict := by
  obtain ⟨valueClass, classified, rule, stated, broken⟩ := fails
  refine ⟨valueClass, classified, rule, stated, ?_⟩
  intro obeyed
  exact broken (obeyed.relaxed stricter)

/-- A defect that is found under the stricter policy is found under the looser
one: the rules before it pass under both. -/
theorem Field.Defect.relaxed (stricter : strict.Stricter loose)
    {fault : RuleFault} (defect : field.Defect strict fault) :
    field.Defect loose fault := by
  obtain ⟨valueClass, classified, before, rule, after, bound, equal, passed,
    described⟩ := defect
  refine ⟨valueClass, classified, before, rule, after, bound, equal, ?_,
    described⟩
  intro earlier member
  exact (passed earlier member).relaxed stricter

theorem Rule.holds_of_not_integer {key : String}
    (notInteger : value.kind ≠ .integer) :
    rule.holds strict key value = rule.holds loose key value := by
  cases value with
  | integer number => exact absurd rfl notInteger
  | text | float | flag | unsupported => cases rule <;> rfl

theorem Field.verdict_of_not_integer (notInteger : field.kind ≠ .integer) :
    field.verdict strict = field.verdict loose := by
  have sameTest : ∀ rule : Rule,
      rule.holds strict field.key field.value =
        rule.holds loose field.key field.value :=
    fun _ => Rule.holds_of_not_integer notInteger
  have sameStep : ∀ valueClass,
      field.step strict valueClass = field.step loose valueClass := by
    intro valueClass
    funext token
    unfold step
    simp only [sameTest]
  unfold verdict steps
  simp only [sameStep]

end Policies

namespace Validator

/-- Two validators differ in their policies on numbers only, and the policy of
the first one is the stricter. -/
structure RelaxesTo (strict loose : Validator) : Prop where
  stricter : strict.settings.presence.Stricter loose.settings.presence
  rest : loose =
    { strict with
      settings := strict.settings.withPresence loose.settings.presence }

section Reports

variable {validator strict loose : Validator} {fields : List Field}
  {field : Field} {key : String}

theorem contains_report_iff
    (completed : (validator.tryValidate fields).1 = .ok ()) :
    (validator.tryValidate fields).2.report.contains key = true ↔
      ∃ field ∈ fields, field.key = key ∧
        field.Fails validator.settings.presence := by
  have sound := completed_iff.mp completed
  rw [report_of_completed completed, Report.contains_iff,
    ← exists_callsFor_iff]
  exact exists_congr (fun _ => get?_gathered_eq_some_iff sound)

theorem completed_of_inRange
    (inRange : ∀ field ∈ fields, field.InRange) :
    (validator.tryValidate fields).1 = .ok () := by
  apply completed_iff.mpr
  intro field member
  exact Field.not_defect_of_inRange (inRange field member)

namespace RelaxesTo

theorem completed (relaxes : RelaxesTo strict loose)
    (looseCompleted : (loose.tryValidate fields).1 = .ok ()) :
    (strict.tryValidate fields).1 = .ok () := by
  apply completed_iff.mpr
  intro field member fault defect
  exact completed_iff.mp looseCompleted field member fault
    (defect.relaxed relaxes.stricter)

theorem contains (relaxes : RelaxesTo strict loose)
    (looseCompleted : (loose.tryValidate fields).1 = .ok ())
    (found : (loose.tryValidate fields).2.report.contains key = true) :
    (strict.tryValidate fields).2.report.contains key = true := by
  obtain ⟨field, member, hasKey, fails⟩ :=
    (contains_report_iff looseCompleted).mp found
  apply (contains_report_iff (relaxes.completed looseCompleted)).mpr
  exact ⟨field, member, hasKey, fails.tightened relaxes.stricter⟩

theorem finding?_eq (relaxes : RelaxesTo strict loose)
    (notInteger : field.kind ≠ .integer) :
    loose.finding? field = strict.finding? field := by
  have sameFailure : loose.failure = strict.failure := by
    rw [relaxes.rest]
    rfl
  have sameVerdict : field.verdict loose.settings.presence =
      field.verdict strict.settings.presence :=
    Field.verdict_of_not_integer notInteger
  unfold finding? check
  rw [sameFailure, sameVerdict]

theorem get?_report (relaxes : RelaxesTo strict loose)
    (looseCompleted : (loose.tryValidate fields).1 = .ok ())
    (notInteger : ∀ field ∈ fields, field.key = key →
      field.kind ≠ .integer) :
    (loose.tryValidate fields).2.report.get? key =
      (strict.tryValidate fields).2.report.get? key := by
  have sameFindings :
      (Field.under key fields).filterMap loose.finding? =
        (Field.under key fields).filterMap strict.finding? := by
    apply List.filterMap_congr
    intro field member
    have hasKey : field.key = key := by
      simpa using (List.mem_filter.mp member).2
    exact relaxes.finding?_eq
      (notInteger field (Field.mem_of_mem_under member) hasKey)
  have sameGathered : loose.gathered (Field.under key fields) =
      strict.gathered (Field.under key fields) := by
    unfold gathered
    rw [sameFindings]
  rw [report_of_completed looseCompleted,
    report_of_completed (relaxes.completed looseCompleted),
    get?_gathered_under, sameGathered, ← get?_gathered_under]

end RelaxesTo

end Reports

/-- What a looser policy on numbers changes.  A pass that is stopped under the
stricter policy is stopped under the looser one.  Where both come to an end, as
they do when all bounds can be read, the keys of the failures under the looser
policy are among those under the stricter one, and under a key without numbers
the entries are the same. -/
theorem report_of_relaxed_policy {strict loose : Validator}
    (relaxes : RelaxesTo strict loose) (fields : List Field) :
    ((∃ fault, (strict.tryValidate fields).1 = .error fault) →
      ∃ fault, (loose.tryValidate fields).1 = .error fault) ∧
    ((strict.tryValidate fields).1 = .ok () →
      (loose.tryValidate fields).1 = .ok () →
        (∀ key,
          (loose.tryValidate fields).2.report.contains key = true →
            (strict.tryValidate fields).2.report.contains key = true) ∧
        (∀ key,
          (∀ field ∈ fields, field.key = key → field.kind ≠ .integer) →
            (loose.tryValidate fields).2.report.get? key =
              (strict.tryValidate fields).2.report.get? key)) ∧
    ((∀ field ∈ fields, field.InRange) →
      (strict.tryValidate fields).1 = .ok () ∧
        (loose.tryValidate fields).1 = .ok ()) := by
  refine ⟨?_, ?_, ?_⟩
  · intro stopped
    obtain ⟨fault, strictStopped⟩ := stopped
    cases looseResult : (loose.tryValidate fields).1 with
    | error looseFault => exact ⟨looseFault, rfl⟩
    | ok _ =>
        have strictCompleted := relaxes.completed looseResult
        rw [strictStopped] at strictCompleted
        contradiction
  · intro _ looseCompleted
    exact ⟨fun _ => relaxes.contains looseCompleted,
      fun _ => relaxes.get?_report looseCompleted⟩
  · intro inRange
    exact ⟨completed_of_inRange inRange, completed_of_inRange inRange⟩

/-- When every number counts as present, `required` no longer fails on zero,
and the negative number fails by another rule.  A present number lets the
defect behind it come to light under both policies. -/
theorem report_of_relaxed_policy_any :
    let strict := Validator.standard
    let loose : Validator :=
      { strict with settings := strict.settings.withPresence .any }
    let fields : List Field :=
      [⟨"count", "", .integer 0, "required,max=5"⟩,
        ⟨"debt", "", .integer (-3), "required,min=18"⟩,
        ⟨"name", "", .text "", "required"⟩]
    let defective : List Field :=
      [⟨"count", "", .integer 7, "required,max=99999999999999999999"⟩]
    RelaxesTo strict loose ∧
      (∃ fault, (loose.tryValidate defective).1 = .error fault) ∧
      (loose.tryValidate fields).2.report.fields = ["debt", "name"] ∧
      (strict.tryValidate fields).2.report.fields =
        ["count", "debt", "name"] ∧
      (strict.tryValidate fields).2.report.contains "debt" = true ∧
      (loose.tryValidate fields).2.report.get? "name" =
        (strict.tryValidate fields).2.report.get? "name" := by
  intro strict loose fields defective
  have relaxes : RelaxesTo strict loose := ⟨.positive_any, rfl⟩
  have stopped : ∃ fault, (strict.tryValidate defective).1 = .error fault :=
    ⟨_, rfl⟩
  have inRange : ∀ field ∈ fields, field.InRange := by decide
  obtain ⟨_, ofCompleted, ofInRange⟩ := report_of_relaxed_policy relaxes fields
  obtain ⟨strictCompleted, looseCompleted⟩ := ofInRange inRange
  obtain ⟨contains, entries⟩ := ofCompleted strictCompleted looseCompleted
  refine ⟨relaxes, (report_of_relaxed_policy relaxes defective).1 stopped,
    by decide +kernel, by decide +kernel, contains "debt" (by decide +kernel),
    entries "name" (by decide)⟩

/-- A number that only the looser policy takes for present lets a defective
bound be read, and the pass is stopped. -/
example :
    let fields : List Field :=
      [⟨"count", "", .integer 0, "required,max=99999999999999999999"⟩]
    (Validator.standard.tryValidate fields).1 = .ok () ∧
      ({ Validator.standard with
          settings := Settings.standard.withPresence .any }.tryValidate
        fields).1 = .error ⟨"count", .max, "99999999999999999999"⟩ :=
  ⟨rfl, rfl⟩

end Validator

end FieldCheck
