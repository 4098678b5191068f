import FieldCheck.Verdict
import Mathlib.Algebra.Group.Nat.Defs

/-!
# What rules ask of values

A rule is tested by a program that may refuse to read its bound.
`Rule.Obeyed` says apart from any program what the rule asks of a value, with
bounds of every size, and `Rule.InRange` says which bounds are read.  The
equivalences below are the only facts about single tests that the theory of
verdicts and passes uses.
-/

namespace FieldCheck

def Presence.Demands : Presence → Int → Prop
  | .positive, number => 0 < number
  | .nonZero, number => number ≠ 0
  | .any, _ => True

@[simp] theorem Presence.admits_iff {presence : Presence} {number : Int} :
    presence.admits number = true ↔ presence.Demands number := by
  cases presence <;>
    simp [Presence.admits, Presence.Demands, Constraint.isPositive,
      Constraint.isNonZero]

namespace Rule

/-- What a rule asks of a value.  Lengths count characters, bounds are natural
numbers without limit, and a rule that has nothing to say about values of a
kind is obeyed by all of them. -/
def Obeyed (presence : Presence) : Value → Rule → Prop
  | .text content, .required => content ≠ ""
  | .text content, .alpha =>
      ∀ character ∈ content.toList,
        character.isAlpha = true ∨ character = ' '
  | .text content, .email => Constraint.isEmail content = true
  | .text content, .len bound => content.length = bound.value
  | .text content, .min bound => bound.value ≤ content.length
  | .text content, .max bound => content.length ≤ bound.value
  | .integer number, .required => presence.Demands number
  | .integer number, .min bound => (bound.value : Int) ≤ number
  | .integer number, .max bound => number ≤ (bound.value : Int)
  | _, _ => True

/-- The bound of a rule, if it has one, is a number of sixty-four bits. -/
def InRange (rule : Rule) : Prop :=
  ∀ bound, rule.bound? = some bound → bound.value < 2 ^ 64

/-- A rule passes on a value: its bound can be read and the value obeys. -/
structure Passes (presence : Presence) (value : Value) (rule : Rule) : Prop where
  inRange : rule.InRange
  obeyed : rule.Obeyed presence value

/-- Values of the kind of a class are tested on the rules of its vocabulary
only. -/
structure Suits (valueClass : ValueClass) (value : Value) (rule : Rule) :
    Prop where
  classified : value.kind.valueClass? = some valueClass
  known : rule.name ∈ valueClass.vocabulary

theorem literal?_eq_some {rule : Rule} {bound : Numeral}
    (bounded : rule.bound? = some bound) : rule.literal? = some bound.text := by
  simp [literal?, bounded]

theorem argument_of_bound {rule : Rule} {bound : Numeral}
    (bounded : rule.bound? = some bound) (kind : IntegerKind)
    (field : String) :
    rule.argument kind field =
      if bound.value ≤ kind.greatest then .ok bound.value
      else .error ⟨field, rule.name, bound.text⟩ := by
  unfold argument
  rw [bounded, Option.bind_some, literal?_eq_some bounded,
    IntegerKind.read?_eq]
  by_cases within : bound.value ≤ kind.greatest <;> simp [within]

theorem le_greatest_word_iff {number : Nat} :
    number ≤ IntegerKind.word.greatest ↔ number < 2 ^ 64 :=
  Nat.le_sub_one_iff_lt (by decide)

theorem inRange_of_no_bound {rule : Rule} (unbounded : rule.bound? = none) :
    rule.InRange := by
  intro bound bounded
  rw [unbounded] at bounded
  contradiction

theorem inRange_iff_of_bound {rule : Rule} {bound : Numeral}
    (bounded : rule.bound? = some bound) :
    rule.InRange ↔ bound.value < 2 ^ 64 := by
  constructor
  · intro inRange
    exact inRange bound bounded
  · intro within other otherBounded
    rw [bounded, Option.some.injEq] at otherBounded
    exact otherBounded ▸ within

theorem exists_large_bound {rule : Rule} (outOfRange : ¬ rule.InRange) :
    ∃ bound, rule.bound? = some bound ∧ 2 ^ 64 ≤ bound.value := by
  cases bounded : rule.bound? with
  | none => exact absurd (inRange_of_no_bound bounded) outOfRange
  | some bound =>
      rw [inRange_iff_of_bound bounded] at outOfRange
      exact ⟨bound, rfl, Nat.le_of_not_lt outOfRange⟩

/-- What a test of a rule may come to.  The test of a rule whose bound is in
range tells whether the value obeys; the fault of any other rule names the
field and the rule and repeats the bound as written. -/
inductive Tested (presence : Presence) (key : String) (value : Value)
    (rule : Rule) : Except RuleFault Bool → Prop where
  | ok {truth : Bool} (inRange : rule.InRange)
      (meaning : truth = true ↔ rule.Obeyed presence value) :
      Tested presence key value rule (.ok truth)
  | error {bound : Numeral} (bounded : rule.bound? = some bound)
      (large : 2 ^ 64 ≤ bound.value) :
      Tested presence key value rule
        (.error ⟨key, rule.name, bound.text⟩)

section Tests

variable {presence : Presence} {key : String} {value : Value} {rule : Rule}

private theorem tested_of_no_bound (unbounded : rule.bound? = none)
    {test : Bool} (meaning : test = true ↔ rule.Obeyed presence value) :
    Tested presence key value rule (.ok test) :=
  .ok (inRange_of_no_bound unbounded) meaning

private theorem tested_of_bound {bound : Numeral}
    (bounded : rule.bound? = some bound) {test : Nat → Bool}
    (meaning : test bound.value = true ↔ rule.Obeyed presence value) :
    Tested presence key value rule
      ((rule.argument .word key).map test) := by
  rw [argument_of_bound bounded]
  by_cases within : bound.value ≤ IntegerKind.word.greatest
  · rw [if_pos within]
    exact .ok ((inRange_iff_of_bound bounded).mpr
      (le_greatest_word_iff.mp within)) meaning
  · rw [if_neg within]
    rw [le_greatest_word_iff] at within
    exact .error bounded (Nat.le_of_not_lt within)

/-- Every test of a rule on a value that it suits comes to what it may come
to: the rules of the two vocabularies one by one. -/
theorem tested_holds {valueClass : ValueClass}
    (suits : Suits valueClass value rule) :
    Tested presence key value rule (rule.holds presence key value) := by
  obtain ⟨classified, known⟩ := suits
  cases value with
  | text content =>
      cases rule with
      | required =>
          exact tested_of_no_bound rfl (by simp [Constraint.isPresent, Obeyed])
      | alpha =>
          exact tested_of_no_bound rfl (by simp [Constraint.isAlphabetic, Obeyed])
      | email => exact tested_of_no_bound rfl Iff.rfl
      | len bound =>
          exact tested_of_bound rfl (by simp [Constraint.hasLength, Obeyed])
      | min bound =>
          exact tested_of_bound rfl (by simp [Constraint.hasMinLength, Obeyed])
      | max bound =>
          exact tested_of_bound rfl (by simp [Constraint.hasMaxLength, Obeyed])
  | integer number =>
      obtain rfl : ValueClass.integer = valueClass := by
        simpa [Value.kind, Value.Kind.valueClass?] using classified
      cases rule with
      | required => exact tested_of_no_bound rfl Presence.admits_iff
      | min bound =>
          exact tested_of_bound rfl (by simp [Constraint.atLeast, Obeyed])
      | max bound =>
          exact tested_of_bound rfl (by simp [Constraint.atMost, Obeyed])
      | alpha | email | len => simp [name, ValueClass.vocabulary] at known
  | float | flag | unsupported =>
      simp [Value.kind, Value.Kind.valueClass?] at classified

theorem holds_eq_ok_iff {valueClass : ValueClass}
    (suits : Suits valueClass value rule) {truth : Bool} :
    rule.holds presence key value = .ok truth ↔
      rule.InRange ∧ (truth = true ↔ rule.Obeyed presence value) := by
  have tested : Tested presence key value rule
      (rule.holds presence key value) := tested_holds suits
  generalize rule.holds presence key value = result at tested
  cases tested with
  | @ok actual inRange meaning =>
      rw [← meaning]
      cases actual <;> cases truth <;> simp [inRange]
  | @error bound bounded large =>
      constructor
      · intro equal
        cases equal
      · intro described
        obtain ⟨inRange, _⟩ := described
        exact absurd (inRange bound bounded) (Nat.not_lt.mpr large)

theorem holds_eq_error_iff {valueClass : ValueClass}
    (suits : Suits valueClass value rule) {fault : RuleFault} :
    rule.holds presence key value = .error fault ↔
      ∃ bound, rule.bound? = some bound ∧ 2 ^ 64 ≤ bound.value ∧
        fault = ⟨key, rule.name, bound.text⟩ := by
  have tested : Tested presence key value rule
      (rule.holds presence key value) := tested_holds suits
  generalize rule.holds presence key value = result at tested
  cases tested with
  | ok inRange meaning =>
      constructor
      · intro equal
        cases equal
      · intro described
        obtain ⟨bound, bounded, large, _⟩ := described
        exact absurd (inRange bound bounded) (Nat.not_lt.mpr large)
  | @error bound bounded large =>
      constructor
      · intro equal
        cases equal
        exact ⟨bound, bounded, large, rfl⟩
      · intro described
        obtain ⟨other, otherBounded, _, rfl⟩ := described
        rw [bounded, Option.some.injEq] at otherBounded
        rw [otherBounded]

theorem holds_eq_ok_true_iff {valueClass : ValueClass}
    (suits : Suits valueClass value rule) :
    rule.holds presence key value = .ok true ↔
      rule.Passes presence value := by
  rw [holds_eq_ok_iff suits]
  constructor
  · intro answered
    obtain ⟨inRange, meaning⟩ := answered
    exact ⟨inRange, meaning.mp rfl⟩
  · intro passes
    obtain ⟨inRange, obeyed⟩ := passes
    exact ⟨inRange, by simp [obeyed]⟩

theorem holds_eq_ok_false_iff {valueClass : ValueClass}
    (suits : Suits valueClass value rule) :
    rule.holds presence key value = .ok false ↔
      rule.InRange ∧ ¬ rule.Obeyed presence value := by
  rw [holds_eq_ok_iff suits]
  simp

end Tests

end Rule

end FieldCheck
