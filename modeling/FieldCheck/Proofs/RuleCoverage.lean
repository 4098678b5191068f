import FieldCheck.Proofs.BoundReading
import FieldCheck.Proofs.TokenPatterns
import FieldCheck.Proofs.VerdictAdequacy

/-!
# The tests that rules have

A rule that has no test for a value is taken to hold.  `Rule.OwnTest` lists the
tests that there are, six for texts and three for whole numbers.  A rule that
is read in the class of a value always has one of them, and its bound is there
whenever the test needs it; so no rule that a field states passes for want of a
test.
-/

namespace FieldCheck

/-- The class that a datum declares: texts and words do, also behind references
and boxes, and nothing else. -/
inductive Datum.Declares : Datum → ValueClass → Prop where
  | text (content : String) : Declares (.text content) .text
  | integer {kind : IntegerKind} (isHeld : kind ∈ IntegerKind.held)
      (word : BitVec kind.bits) : Declares (.integer kind isHeld word) .integer
  | reference {target : Datum} {valueClass : ValueClass}
      (declares : Declares target valueClass) :
      Declares (.reference target) valueClass
  | box {content : Datum} {valueClass : ValueClass}
      (declares : Declares content valueClass) :
      Declares (.box content) valueClass

theorem Datum.valueClass?_value_iff {datum : Datum} {valueClass : ValueClass} :
    datum.value.kind.valueClass? = some valueClass ↔
      datum.Declares valueClass := by
  constructor
  · intro classified
    induction datum with
    | text content =>
        cases classified
        exact .text content
    | integer kind isHeld word =>
        cases classified
        exact .integer isHeld word
    | single number | double number | flag truth => cases classified
    | optional | list => cases classified
    | reference target induction => exact .reference (induction classified)
    | box content induction => exact .box (induction classified)
  · intro declares
    induction declares with
    | text content => rfl
    | integer isHeld word => rfl
    | reference declares induction => exact induction
    | box declares induction => exact induction

namespace Value

theorem valueClass?_eq_text_iff {value : Value} :
    value.kind.valueClass? = some .text ↔
      ∃ content, value = .text content := by
  cases value <;> simp [kind, Kind.valueClass?]

theorem valueClass?_eq_integer_iff {value : Value} :
    value.kind.valueClass? = some .integer ↔
      ∃ number, value = .integer number := by
  cases value <;> simp [kind, Kind.valueClass?]

end Value

theorem Numeral.text_ne_empty (bound : Numeral) : bound.text ≠ "" := by
  intro empty
  exact bound.nonempty (by simpa [text] using empty)

namespace Rule

/-- What a test with a bound comes to.  The number that the digits denote
decides, or the digits are shown if it has more than sixty-four bits. -/
def testOnBound (key : String) (name : RuleName) (bound : Numeral)
    (test : Nat → Bool) : Except RuleFault Bool :=
  if bound.value < 2 ^ 64 then .ok (test bound.value)
  else .error ⟨key, name, bound.text⟩

/-- A rule has a test of its own for a value, and this is what it comes to. -/
inductive OwnTest (presence : Presence) (key : String) :
    Value → Rule → Except RuleFault Bool → Prop where
  | textRequired {content : String} :
      OwnTest presence key (.text content) .required
        (.ok (Constraint.isPresent content))
  | textAlpha {content : String} :
      OwnTest presence key (.text content) .alpha
        (.ok (Constraint.isAlphabetic content))
  | textEmail {content : String} :
      OwnTest presence key (.text content) .email
        (.ok (Constraint.isEmail content))
  | textLen {content : String} {bound : Numeral} :
      OwnTest presence key (.text content) (.len bound)
        (testOnBound key .len bound (Constraint.hasLength content))
  | textMin {content : String} {bound : Numeral} :
      OwnTest presence key (.text content) (.min bound)
        (testOnBound key .min bound (Constraint.hasMinLength content))
  | textMax {content : String} {bound : Numeral} :
      OwnTest presence key (.text content) (.max bound)
        (testOnBound key .max bound (Constraint.hasMaxLength content))
  | integerRequired {number : Int} :
      OwnTest presence key (.integer number) .required
        (.ok (presence.admits number))
  | integerMin {number : Int} {bound : Numeral} :
      OwnTest presence key (.integer number) (.min bound)
        (testOnBound key .min bound
          (fun least => Constraint.atLeast number (least : Int)))
  | integerMax {number : Int} {bound : Numeral} :
      OwnTest presence key (.integer number) (.max bound)
        (testOnBound key .max bound
          (fun greatest => Constraint.atMost number (greatest : Int)))

section Coverage

variable {presence : Presence} {key : String} {value : Value} {rule : Rule}
  {valueClass : ValueClass}

/-- A rule without a test of its own holds of the value. -/
theorem holds_of_no_ownTest
    (untested : ∀ outcome, ¬ OwnTest presence key value rule outcome) :
    rule.holds presence key value = .ok true := by
  cases value with
  | text content =>
      cases rule with
      | required => exact absurd .textRequired (untested _)
      | alpha => exact absurd .textAlpha (untested _)
      | email => exact absurd .textEmail (untested _)
      | len bound => exact absurd .textLen (untested _)
      | min bound => exact absurd .textMin (untested _)
      | max bound => exact absurd .textMax (untested _)
  | integer number =>
      cases rule with
      | required => exact absurd .integerRequired (untested _)
      | min bound => exact absurd .integerMin (untested _)
      | max bound => exact absurd .integerMax (untested _)
      | alpha | email | len => rfl
  | float | flag | unsupported => cases rule <;> rfl

private theorem ownTest_of_bound {bound : Numeral} {test : Nat → Bool}
    (bounded : rule.bound? = some bound)
    (own : OwnTest presence key value rule
      (testOnBound key rule.name bound test)) :
    OwnTest presence key value rule ((rule.argument .word key).map test) := by
  have same : (rule.argument .word key).map test =
      testOnBound key rule.name bound test := by
    simp only [argument_of_bound bounded, le_greatest_word_iff, testOnBound]
    split <;> rfl
  rw [same]
  exact own

/-- The rules of a class have tests of their own for the values of the class,
and it is by these that they hold or not. -/
theorem ownTest_holds (suits : Suits valueClass value rule) :
    OwnTest presence key value rule (rule.holds presence key value) := by
  obtain ⟨classified, known⟩ := suits
  cases valueClass with
  | text =>
      obtain ⟨content, rfl⟩ := Value.valueClass?_eq_text_iff.mp classified
      cases rule with
      | required => exact .textRequired
      | alpha => exact .textAlpha
      | email => exact .textEmail
      | len bound => exact ownTest_of_bound rfl .textLen
      | min bound => exact ownTest_of_bound rfl .textMin
      | max bound => exact ownTest_of_bound rfl .textMax
  | integer =>
      obtain ⟨number, rfl⟩ := Value.valueClass?_eq_integer_iff.mp classified
      cases rule with
      | required => exact .integerRequired
      | min bound => exact ownTest_of_bound rfl .integerMin
      | max bound => exact ownTest_of_bound rfl .integerMax
      | alpha | email | len => simp [name, ValueClass.vocabulary] at known

theorem name_of_integer_vocabulary
    (known : rule.name ∈ ValueClass.integer.vocabulary) :
    rule.name ∉ [.alpha, .email, .len] := by
  cases rule <;> simp_all [name, ValueClass.vocabulary]

/-- The rules of three names have a literal, which are the digits of their
token, and the others have none. -/
theorem exists_literal_iff {token : String}
    (read : valueClass.rule? token = some rule) :
    rule.name ∈ [.len, .min, .max] ↔
      ∃ literal, rule.literal? = some literal ∧ literal ≠ "" ∧
        (∀ digit ∈ literal.toList, digit.isDigit = true) ∧
        token = rule.name.text ++ "=" ++ literal := by
  have named : rule.name ∈ [.len, .min, .max] ↔
      ∃ bound, rule.bound? = some bound := by
    rw [exists_bound_iff]
    simp
  rw [named]
  constructor
  · intro bounded
    obtain ⟨bound, isBound⟩ := bounded
    have has := literal?_eq_some isBound
    refine ⟨bound.text, has, bound.text_ne_empty, ?_,
      (literal?_eq_some_iff read).mp has⟩
    rw [Numeral.text, String.toList_ofList]
    exact bound.decimal
  · intro described
    obtain ⟨literal, has, _⟩ := described
    obtain ⟨bound, isBound, _⟩ := exists_bound_of_literal has
    exact ⟨bound, isBound⟩

end Coverage

end Rule

namespace Field

variable {presence : Presence} {valueClass : ValueClass} {field : Field}

theorem ownTest_of_passed
    (classified : field.kind.valueClass? = some valueClass) {rule : Rule}
    (passed : .passed rule ∈ field.steps presence valueClass) :
    rule.OwnTest presence field.key field.value (.ok true) := by
  obtain ⟨token, _, step⟩ := List.mem_map.mp passed
  cases step_eq_iff.mp step with
  | passed read held =>
      exact held ▸ Rule.ownTest_holds (suits_of_read classified read)

/-- No test misses its bound: a fault shows digits. -/
theorem literal_ne_empty_of_faulty
    (classified : field.kind.valueClass? = some valueClass) {fault : RuleFault}
    (faulty : .faulty fault ∈ field.steps presence valueClass) :
    fault.literal ≠ "" := by
  obtain ⟨token, _, step⟩ := List.mem_map.mp faulty
  obtain ⟨rule, bound, _, _, _, rfl⟩ :=
    (step_eq_faulty_iff classified).mp step
  exact bound.text_ne_empty

/-- Which tests a field takes.  The class of its rules is that of its datum:
texts have the rules for texts, words those for whole numbers, and all else has
none.  Every rule that is read has a test of its own for the value, one of six
or of three, and holds by its outcome; rules on letters, addresses and exact
lengths are not read for numbers, and the rules with a bound have its digits.
So what passes has passed a test, and no test is without the bound that it
needs, while any rule beyond these tests would hold. -/
theorem ownTest_of_field (presence : Presence) (datum : Datum)
    (key label expression : String) :
    let field : Field := ⟨key, label, datum.value, expression⟩
    (∀ valueClass, field.kind.valueClass? = some valueClass ↔
      datum.Declares valueClass) ∧
    (field.kind.valueClass? = some .text ↔
      ∃ content, field.value = .text content) ∧
    (field.kind.valueClass? = some .integer ↔
      ∃ number, field.value = .integer number) ∧
    (∀ valueClass, field.kind.valueClass? = some valueClass →
      (∀ token ∈ Expression.tokens expression, ∀ rule,
        valueClass.rule? token = some rule →
        rule.OwnTest presence key field.value
          (rule.holds presence key field.value) ∧
        (valueClass = .integer → rule.name ∉ [.alpha, .email, .len]) ∧
        (rule.name ∈ [.len, .min, .max] ↔
          ∃ literal, rule.literal? = some literal ∧ literal ≠ "" ∧
            (∀ digit ∈ literal.toList, digit.isDigit = true) ∧
            token = rule.name.text ++ "=" ++ literal)) ∧
      (∀ rule, .passed rule ∈ field.steps presence valueClass →
        rule.OwnTest presence key field.value (.ok true)) ∧
      ∀ fault, .faulty fault ∈ field.steps presence valueClass →
        fault.literal ≠ "") ∧
    ∀ value rule,
      (∀ outcome, ¬ Rule.OwnTest presence key value rule outcome) →
        rule.holds presence key value = .ok true := by
  intro field
  refine ⟨fun _ => Datum.valueClass?_value_iff, Value.valueClass?_eq_text_iff,
    Value.valueClass?_eq_integer_iff, ?_,
    fun _ _ => Rule.holds_of_no_ownTest⟩
  intro valueClass classified
  refine ⟨?_, fun _ => ownTest_of_passed classified,
    fun _ => literal_ne_empty_of_faulty classified⟩
  intro token _ rule read
  refine ⟨Rule.ownTest_holds (suits_of_read classified read), ?_,
    Rule.exists_literal_iff read⟩
  rintro rfl
  exact Rule.name_of_integer_vocabulary (ValueClass.name_mem_vocabulary read)

/-- Of a word in a box one rule is tested on its bound, and the rules for texts
that stand before it are not read. -/
theorem ownTest_of_field_boxed_word :
    let datum : Datum := .box (.integer ⟨true, 8⟩ (by decide) (-3))
    let one : Numeral := ⟨['0', '1'], by simp, by simp⟩
    let field : Field :=
      ⟨"floor", "", datum.value, "alpha,len=2, min=01,required"⟩
    field.kind.valueClass? = some .integer ∧
      ValueClass.integer.rule? "min=01" = some (.min one) ∧
      (Rule.min one).OwnTest .any "floor" field.value (.ok false) ∧
      Step.passed .required ∈ field.steps .any .integer ∧
      Rule.required.OwnTest .any "floor" field.value (.ok true) := by
  intro datum one field
  obtain ⟨classes, _, _, tests, _⟩ :=
    ownTest_of_field .any datum "floor" "" "alpha,len=2, min=01,required"
  have classified : field.kind.valueClass? = some .integer :=
    (classes .integer).mpr (.box (.integer _ _))
  obtain ⟨ofToken, ofPassed, _⟩ := tests .integer classified
  have read : ValueClass.integer.rule? "min=01" = some (.min one) := by decide
  have passed : Step.passed .required ∈ field.steps .any .integer :=
    List.mem_map.mpr ⟨"required", by decide, rfl⟩
  obtain ⟨own, _, _⟩ := ofToken "min=01" (by decide) (.min one) read
  exact ⟨classified, read, own, passed, ofPassed .required passed⟩

end Field

end FieldCheck
