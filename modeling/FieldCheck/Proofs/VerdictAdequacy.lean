import FieldCheck.Proofs.ExpressionReading
import FieldCheck.Proofs.FirstSuch
import FieldCheck.Proofs.RuleMeaning

/-!
# What the verdict on a field means

`Field.Fails`, `Field.FirstBroken` and `Field.Defect` speak of the rules that
an expression states and of what they ask of the value.  No scan occurs in
them.  The verdict of the program is shown to be the one that they describe,
also where a blank expression is not looked at.
-/

namespace FieldCheck

theorem exceptMap_eq_ok_iff {ε α β : Type} {result : Except ε α}
    {function : α → β} {image : β} :
    result.map function = .ok image ↔
      ∃ value, result = .ok value ∧ function value = image := by
  cases result <;> simp [Except.map]

theorem exceptMap_eq_error_iff {ε α β : Type} {result : Except ε α}
    {function : α → β} {fault : ε} :
    result.map function = .error fault ↔ result = .error fault := by
  cases result <;> simp [Except.map]

namespace Step

theorem verdict_eq_ok_some_iff {steps : List Step} {rule : Rule} :
    verdict steps = .ok (some rule) ↔
      FirstSuch (fun step => step.isDecisive = true) steps (.failed rule) := by
  induction steps with
  | nil => simp [verdict, not_firstSuch_nil]
  | cons step rest induction =>
      rw [firstSuch_cons]
      cases step with
      | ignored | passed => simp [verdict, isDecisive, induction]
      | failed found =>
          simp only [verdict, isDecisive, Except.ok.injEq, Option.some.injEq,
            failed.injEq, true_and, not_true_eq_false, false_and, or_false]
          exact eq_comm
      | faulty fault => simp [verdict, isDecisive]

theorem verdict_eq_error_iff {steps : List Step} {fault : RuleFault} :
    verdict steps = .error fault ↔
      FirstSuch (fun step => step.isDecisive = true) steps (.faulty fault) := by
  induction steps with
  | nil => simp [verdict, not_firstSuch_nil]
  | cons step rest induction =>
      rw [firstSuch_cons]
      cases step with
      | ignored | passed => simp [verdict, isDecisive, induction]
      | failed found => simp [verdict, isDecisive]
      | faulty found =>
          simp only [verdict, isDecisive, Except.error.injEq,
            faulty.injEq, true_and, not_true_eq_false, false_and, or_false]
          exact eq_comm

theorem verdict_eq_ok_none_iff {steps : List Step} :
    verdict steps = .ok none ↔ ∀ step ∈ steps, step.isDecisive = false := by
  induction steps with
  | nil => simp [verdict]
  | cons step rest induction =>
      rw [List.forall_mem_cons]
      cases step with
      | ignored | passed => simp [verdict, isDecisive, induction]
      | failed | faulty => simp [verdict, isDecisive]

end Step

namespace Field

def stated (field : Field) (valueClass : ValueClass) : List Rule :=
  Expression.rules valueClass field.rules

/-- A field fails when it has a value of a class and states a rule of the
class that the value does not obey. -/
def Fails (presence : Presence) (field : Field) : Prop :=
  ∃ valueClass, field.kind.valueClass? = some valueClass ∧
    ∃ rule ∈ field.stated valueClass, ¬ rule.Obeyed presence field.value

/-- A rule is the first one among those stated that the value of a field does
not obey. -/
structure FirstBroken (presence : Presence) (field : Field)
    (valueClass : ValueClass) (rule : Rule) : Prop where
  classified : field.kind.valueClass? = some valueClass
  first : FirstSuch (fun rule => ¬ rule.Obeyed presence field.value)
    (field.stated valueClass) rule

/-- A field is defective when it states a rule whose bound is no number of
sixty-four bits and all rules stated before this one pass.  The fault names
the field and the rule and repeats the bound as written. -/
def Defect (presence : Presence) (field : Field) (fault : RuleFault) : Prop :=
  ∃ valueClass, field.kind.valueClass? = some valueClass ∧
    ∃ before rule after bound,
      field.stated valueClass = before ++ rule :: after ∧
      (∀ earlier ∈ before, earlier.Passes presence field.value) ∧
      rule.bound? = some bound ∧ 2 ^ 64 ≤ bound.value ∧
      fault = ⟨field.key, rule.name, bound.text⟩

/-- What a token of a field comes to. -/
inductive ComesTo (presence : Presence) (valueClass : ValueClass)
    (field : Field) (token : String) : Step → Prop where
  | ignored (unread : valueClass.rule? token = none) :
      ComesTo presence valueClass field token (.ignored token)
  | passed {rule : Rule} (read : valueClass.rule? token = some rule)
      (held : rule.holds presence field.key field.value = .ok true) :
      ComesTo presence valueClass field token (.passed rule)
  | failed {rule : Rule} (read : valueClass.rule? token = some rule)
      (held : rule.holds presence field.key field.value = .ok false) :
      ComesTo presence valueClass field token (.failed rule)
  | faulty {rule : Rule} {fault : RuleFault}
      (read : valueClass.rule? token = some rule)
      (held : rule.holds presence field.key field.value = .error fault) :
      ComesTo presence valueClass field token (.faulty fault)

section Steps

variable {presence : Presence} {valueClass : ValueClass} {field : Field}
  {token : String}

theorem suits_of_read
    (classified : field.kind.valueClass? = some valueClass) {rule : Rule}
    (read : valueClass.rule? token = some rule) :
    Rule.Suits valueClass field.value rule :=
  ⟨classified, ValueClass.name_mem_vocabulary read⟩

theorem step_eq_iff {step : Step} :
    field.step presence valueClass token = step ↔
      field.ComesTo presence valueClass token step := by
  unfold Field.step
  constructor
  · rintro rfl
    cases read : valueClass.rule? token with
    | none => exact .ignored read
    | some rule =>
        rcases held : rule.holds presence field.key field.value with
          fault | (_ | _)
        · simpa only [held] using ComesTo.faulty read held
        · simpa only [held] using ComesTo.failed read held
        · simpa only [held] using ComesTo.passed read held
  · intro comes
    cases comes with
    | ignored unread => simp only [unread]
    | passed read held | failed read held | faulty read held =>
        simp only [read, held]

theorem step_eq_failed_iff
    (classified : field.kind.valueClass? = some valueClass) {rule : Rule} :
    field.step presence valueClass token = .failed rule ↔
      valueClass.rule? token = some rule ∧ rule.InRange ∧
        ¬ rule.Obeyed presence field.value := by
  rw [step_eq_iff]
  constructor
  · intro comes
    cases comes with
    | failed read held =>
        have suits := suits_of_read classified read
        exact ⟨read, (Rule.holds_eq_ok_false_iff suits).mp held⟩
  · intro described
    obtain ⟨read, broken⟩ := described
    have suits := suits_of_read classified read
    exact .failed read ((Rule.holds_eq_ok_false_iff suits).mpr broken)

theorem step_eq_faulty_iff
    (classified : field.kind.valueClass? = some valueClass)
    {fault : RuleFault} :
    field.step presence valueClass token = .faulty fault ↔
      ∃ rule bound, valueClass.rule? token = some rule ∧
        rule.bound? = some bound ∧ 2 ^ 64 ≤ bound.value ∧
        fault = ⟨field.key, rule.name, bound.text⟩ := by
  rw [step_eq_iff]
  constructor
  · intro comes
    cases comes with
    | faulty read held =>
        obtain ⟨bound, described⟩ :=
          (Rule.holds_eq_error_iff (suits_of_read classified read)).mp held
        exact ⟨_, bound, read, described⟩
  · intro described
    obtain ⟨rule, bound, read, described⟩ := described
    have suits := suits_of_read classified read
    exact .faulty read ((Rule.holds_eq_error_iff suits).mpr ⟨bound, described⟩)

theorem step_eq_ignored_iff {ignored : String} :
    field.step presence valueClass token = .ignored ignored ↔
      valueClass.rule? token = none ∧ token = ignored := by
  rw [step_eq_iff]
  constructor
  · intro comes
    cases comes with
    | ignored unread => exact ⟨unread, rfl⟩
  · intro described
    obtain ⟨unread, rfl⟩ := described
    exact .ignored unread

/-- A token is decisive when it is read as a rule that does not pass. -/
theorem step_isDecisive_iff
    (classified : field.kind.valueClass? = some valueClass) :
    (field.step presence valueClass token).isDecisive = true ↔
      ∃ rule, valueClass.rule? token = some rule ∧
        ¬ rule.Passes presence field.value := by
  have passes : ∀ rule, valueClass.rule? token = some rule →
      (rule.holds presence field.key field.value = .ok true ↔
        rule.Passes presence field.value) :=
    fun rule read => Rule.holds_eq_ok_true_iff (suits_of_read classified read)
  have comes : field.ComesTo presence valueClass token
      (field.step presence valueClass token) := step_eq_iff.mp rfl
  generalize field.step presence valueClass token = step at comes ⊢
  cases comes with
  | ignored unread => simp [Step.isDecisive, unread]
  | passed read held | failed read held | faulty read held =>
      simp [Step.isDecisive, read, ← passes _ read, held]

theorem step_isDecisive_eq_false_iff
    (classified : field.kind.valueClass? = some valueClass) :
    (field.step presence valueClass token).isDecisive = false ↔
      ∀ rule, valueClass.rule? token = some rule →
        rule.Passes presence field.value := by
  rw [Bool.eq_false_iff, ne_eq, step_isDecisive_iff classified]
  simp only [not_exists, not_and, Classical.not_not]

private theorem firstSuch_steps_iff
    (classified : field.kind.valueClass? = some valueClass) {step : Step} :
    FirstSuch (fun step => step.isDecisive = true)
        (field.steps presence valueClass) step ↔
      ∃ token,
        FirstSuch
          (fun token => ∃ rule, valueClass.rule? token = some rule ∧
            ¬ rule.Passes presence field.value)
          (Expression.tokens field.rules) token ∧
        field.step presence valueClass token = step := by
  unfold steps
  rw [firstSuch_map]
  simp only [step_isDecisive_iff classified]

theorem firstSuch_failed_iff
    (classified : field.kind.valueClass? = some valueClass) {rule : Rule} :
    FirstSuch (fun step => step.isDecisive = true)
        (field.steps presence valueClass) (.failed rule) ↔
      FirstSuch (fun rule => ¬ rule.Passes presence field.value)
          (field.stated valueClass) rule ∧
        rule.InRange := by
  unfold stated Expression.rules
  rw [firstSuch_steps_iff classified, firstSuch_filterMap]
  constructor
  · intro described
    obtain ⟨token, first, failed⟩ := described
    obtain ⟨read, inRange, _⟩ := (step_eq_failed_iff classified).mp failed
    exact ⟨⟨token, first, read⟩, inRange⟩
  · intro described
    obtain ⟨⟨token, first, read⟩, inRange⟩ := described
    obtain ⟨tokenRule, tokenRead, notPassed⟩ := first.has
    rw [read, Option.some.injEq] at tokenRead
    subst tokenRead
    have broken : ¬ rule.Obeyed presence field.value :=
      fun obeyed => notPassed ⟨inRange, obeyed⟩
    exact ⟨token, first,
      (step_eq_failed_iff classified).mpr ⟨read, inRange, broken⟩⟩

theorem firstSuch_faulty_iff
    (classified : field.kind.valueClass? = some valueClass)
    {fault : RuleFault} :
    FirstSuch (fun step => step.isDecisive = true)
        (field.steps presence valueClass) (.faulty fault) ↔
      ∃ rule bound,
        FirstSuch (fun rule => ¬ rule.Passes presence field.value)
          (field.stated valueClass) rule ∧
        rule.bound? = some bound ∧ 2 ^ 64 ≤ bound.value ∧
        fault = ⟨field.key, rule.name, bound.text⟩ := by
  unfold stated Expression.rules
  simp only [firstSuch_steps_iff classified, firstSuch_filterMap]
  constructor
  · intro described
    obtain ⟨token, first, faulty⟩ := described
    obtain ⟨rule, bound, read, described⟩ :=
      (step_eq_faulty_iff classified).mp faulty
    exact ⟨rule, bound, ⟨token, first, read⟩, described⟩
  · intro described
    obtain ⟨rule, bound, ⟨token, first, read⟩, described⟩ := described
    exact ⟨token, first,
      (step_eq_faulty_iff classified).mpr ⟨rule, bound, read, described⟩⟩

end Steps

section Verdicts

variable {presence : Presence} {valueClass : ValueClass} {field : Field}

private theorem steps_of_blank (blank : field.hasRules = false) :
    field.steps presence valueClass = [.ignored ""] := by
  have isBlank : Expression.isBlank field.rules = true := by
    simpa [hasRules] using blank
  unfold steps
  rw [Expression.tokens_of_isBlank isBlank, List.map_singleton,
    step_eq_ignored_iff.mpr ⟨valueClass.rule?_empty, rfl⟩]

/-- The verdict on a field with a value of a class is that of its steps.  A
blank expression needs no exception: its only token is ignored. -/
theorem verdict_of_classified
    (classified : field.kind.valueClass? = some valueClass) :
    field.verdict presence =
      (Step.verdict (field.steps presence valueClass)).map
        (·.map (fun rule => (valueClass, rule))) := by
  unfold verdict testedClass?
  cases declared : field.hasRules with
  | true => simp [classified]
  | false =>
      rw [steps_of_blank declared]
      rfl

theorem verdict_of_unclassified
    (unclassified : field.kind.valueClass? = none) :
    field.verdict presence = .ok none := by
  unfold verdict testedClass?
  cases field.hasRules <;> simp [unclassified]

/-- The rule of the verdict is the first one that does not pass, and its bound
is in range. -/
theorem verdict_eq_ok_some_iff {rule : Rule} :
    field.verdict presence = .ok (some (valueClass, rule)) ↔
      field.kind.valueClass? = some valueClass ∧
        FirstSuch (fun rule => ¬ rule.Passes presence field.value)
          (field.stated valueClass) rule ∧
        rule.InRange := by
  cases classified : field.kind.valueClass? with
  | none => simp [verdict_of_unclassified classified]
  | some actual =>
      rw [verdict_of_classified classified, exceptMap_eq_ok_iff]
      constructor
      · intro described
        obtain ⟨found?, judged, mapped⟩ := described
        obtain ⟨found, rfl, equal⟩ := Option.map_eq_some_iff.mp mapped
        obtain ⟨rfl, rfl⟩ := Prod.mk.inj equal
        exact ⟨rfl, (firstSuch_failed_iff classified).mp
          (Step.verdict_eq_ok_some_iff.mp judged)⟩
      · intro described
        obtain ⟨sameClass, first⟩ := described
        obtain rfl := Option.some.inj sameClass
        exact ⟨some rule, Step.verdict_eq_ok_some_iff.mpr
          ((firstSuch_failed_iff classified).mpr first), rfl⟩

/-- A field is defective when the first rule that does not pass has a bound
out of range. -/
theorem defect_iff {fault : RuleFault} :
    field.Defect presence fault ↔
      ∃ valueClass, field.kind.valueClass? = some valueClass ∧
        ∃ rule bound,
          FirstSuch (fun rule => ¬ rule.Passes presence field.value)
            (field.stated valueClass) rule ∧
          rule.bound? = some bound ∧ 2 ^ 64 ≤ bound.value ∧
          fault = ⟨field.key, rule.name, bound.text⟩ := by
  constructor
  · intro defect
    obtain ⟨valueClass, classified, before, rule, after, bound, equal, passed,
      bounded, large, described⟩ := defect
    have notPassed : ¬ rule.Passes presence field.value := fun passes =>
      absurd (passes.inRange bound bounded) (Nat.not_lt.mpr large)
    refine ⟨valueClass, classified, rule, bound, ?_, bounded, large, described⟩
    exact ⟨before, after, equal, notPassed,
      fun earlier member => not_not_intro (passed earlier member)⟩
  · intro described
    obtain ⟨valueClass, classified, rule, bound, ⟨before, after, equal, _,
      passed⟩, bounded, large, described⟩ := described
    exact ⟨valueClass, classified, before, rule, after, bound, equal,
      fun earlier member => Classical.not_not.mp (passed earlier member),
      bounded, large, described⟩

theorem verdict_eq_error_iff {fault : RuleFault} :
    field.verdict presence = .error fault ↔
      field.Defect presence fault := by
  rw [defect_iff]
  cases classified : field.kind.valueClass? with
  | none => simp [verdict_of_unclassified classified]
  | some valueClass =>
      rw [verdict_of_classified classified, exceptMap_eq_error_iff,
        Step.verdict_eq_error_iff, firstSuch_faulty_iff classified]
      simp only [Option.some.injEq, exists_eq_left']

/-- Nothing is found on a field when every rule that it states in the class of
its value passes. -/
theorem verdict_eq_ok_none_iff :
    field.verdict presence = .ok none ↔
      ∀ valueClass, field.kind.valueClass? = some valueClass →
        ∀ rule ∈ field.stated valueClass,
          rule.Passes presence field.value := by
  cases classified : field.kind.valueClass? with
  | none => simp [verdict_of_unclassified classified]
  | some valueClass =>
      have stepwise : field.verdict presence = .ok none ↔
          ∀ token ∈ Expression.tokens field.rules,
            (field.step presence valueClass token).isDecisive = false := by
        rw [verdict_of_classified classified, exceptMap_eq_ok_iff]
        simp only [Option.map_eq_none_iff, exists_eq_right,
          Step.verdict_eq_ok_none_iff, steps, List.forall_mem_map]
      rw [stepwise]
      simp only [step_isDecisive_eq_false_iff classified, Option.some.injEq,
        forall_eq']
      constructor
      · intro passed rule stated
        obtain ⟨token, member, read⟩ := List.mem_filterMap.mp stated
        exact passed token member rule read
      · intro passed token member rule read
        exact passed rule (List.mem_filterMap.mpr ⟨token, member, read⟩)

/-- On a field without defects the verdict is the first rule that is not
obeyed: every rule before it and the rule itself can be tested. -/
theorem firstBroken_iff {rule : Rule}
    (sound : ∀ fault, ¬ field.Defect presence fault) :
    field.FirstBroken presence valueClass rule ↔
      field.verdict presence = .ok (some (valueClass, rule)) := by
  rw [verdict_eq_ok_some_iff]
  constructor
  · intro first
    obtain ⟨classified, firstBroken⟩ := first
    have notPassed : ∃ rule ∈ field.stated valueClass,
        ¬ rule.Passes presence field.value :=
      ⟨rule, firstBroken.mem, fun passes => firstBroken.has passes.obeyed⟩
    obtain ⟨unpassed, first⟩ := exists_firstSuch_iff.mpr notPassed
    have inRange : unpassed.InRange := by
      apply Classical.byContradiction
      intro outOfRange
      obtain ⟨bound, bounded, large⟩ := Rule.exists_large_bound outOfRange
      exact sound _ (defect_iff.mpr
        ⟨valueClass, classified, unpassed, bound, first, bounded, large, rfl⟩)
    have same : unpassed = rule := by
      refine FirstSuch.unique (first.strengthen ?_ ?_) firstBroken
      · exact fun obeyed => first.has ⟨inRange, obeyed⟩
      · exact fun rule broken passes => broken passes.obeyed
    subst same
    exact ⟨classified, first, inRange⟩
  · intro judgement
    obtain ⟨classified, first, inRange⟩ := judgement
    refine ⟨classified, first.strengthen ?_ ?_⟩
    · exact fun obeyed => first.has ⟨inRange, obeyed⟩
    · exact fun rule broken passes => broken passes.obeyed

theorem fails_iff_exists_firstBroken :
    field.Fails presence ↔
      ∃ valueClass rule, field.FirstBroken presence valueClass rule := by
  constructor
  · intro fails
    obtain ⟨valueClass, classified, broken⟩ := fails
    obtain ⟨rule, first⟩ := exists_firstSuch_iff.mpr broken
    exact ⟨valueClass, rule, classified, first⟩
  · intro broken
    obtain ⟨valueClass, rule, classified, first⟩ := broken
    exact ⟨valueClass, classified, exists_firstSuch_iff.mp ⟨rule, first⟩⟩

/-- A field with a blank expression or with a value of no class cannot
fail. -/
theorem not_fails_of_untested
    (untested : field.hasRules = false ∨ field.kind.valueClass? = none) :
    ¬ field.Fails presence := by
  intro fails
  obtain ⟨valueClass, classified, rule, member, _⟩ := fails
  rcases untested with blank | unclassified
  · have isBlank : Expression.isBlank field.rules = true := by
      simpa [hasRules] using blank
    rw [stated, Expression.rules_of_isBlank isBlank] at member
    simp at member
  · rw [unclassified] at classified
    contradiction

end Verdicts

end Field

end FieldCheck
