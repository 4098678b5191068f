import FieldCheck.Datum
import FieldCheck.Proofs.RuleConjunction
import Mathlib.Algebra.Group.Int.Defs

/-!
# Bounds on sizes

Least and greatest bounds speak of the size of a datum: of the number that a
word stands for, and of the number of characters of a text.  Sizes and bounds
are compared as whole numbers, whatever the width and the sign of the words and
whatever references and boxes the datum is behind.
-/

namespace FieldCheck

inductive Datum.HasSize : Datum → ValueClass → Int → Prop where
  | integer {kind : IntegerKind} (isHeld : kind ∈ IntegerKind.held)
      (word : BitVec kind.bits) :
      HasSize (.integer kind isHeld word) .integer (kind.number word)
  | text (content : String) :
      HasSize (.text content) .text content.toList.length
  | reference {target : Datum} {valueClass : ValueClass} {size : Int}
      (hasSize : HasSize target valueClass size) :
      HasSize (.reference target) valueClass size
  | box {content : Datum} {valueClass : ValueClass} {size : Int}
      (hasSize : HasSize content valueClass size) :
      HasSize (.box content) valueClass size

/-- A validator judges a datum under written rules by a condition: whatever
field the datum is bound to and however the rules are written, a check ends, it
finds nothing if the condition holds, and it finds a failure if not. -/
def Validator.Judges (validator : Validator) (datum : Datum)
    (valueClass : ValueClass) (written : List Rule) (condition : Prop) : Prop :=
  ∀ key label rules, Expression.Writes valueClass written rules →
    (validator.check ⟨key, label, datum.value, rules⟩ = .ok none ↔
      condition) ∧
    ((∃ message,
      validator.check ⟨key, label, datum.value, rules⟩ = .ok (some message)) ↔
        ¬ condition)

/-- The class of a value and its size: the number itself, or the number of
characters. -/
inductive Value.Sized : Value → ValueClass → Int → Prop where
  | integer (number : Int) : Sized (.integer number) .integer number
  | text (content : String) : Sized (.text content) .text content.length

theorem Datum.HasSize.sized {datum : Datum} {valueClass : ValueClass}
    {size : Int} (hasSize : datum.HasSize valueClass size) :
    datum.value.Sized valueClass size := by
  induction hasSize with
  | @integer kind isHeld word =>
      rw [← IntegerKind.toInt_widened isHeld word]
      exact .integer (kind.widened word).toInt
  | text content =>
      rw [String.length_toList]
      exact .text content
  | reference hasSize induction => exact induction
  | box hasSize induction => exact induction

namespace Value.Sized

variable {presence : Presence} {value : Value} {valueClass : ValueClass}
  {size : Int} {bound : Numeral}

theorem classified (sized : value.Sized valueClass size) :
    value.kind.valueClass? = some valueClass := by
  cases sized <;> rfl

theorem obeyed_min_iff (sized : value.Sized valueClass size) :
    (Rule.min bound).Obeyed presence value ↔ bound.value ≤ size := by
  cases sized with
  | integer => exact Iff.rfl
  | text content => exact Int.ofNat_le.symm

theorem obeyed_max_iff (sized : value.Sized valueClass size) :
    (Rule.max bound).Obeyed presence value ↔ size ≤ bound.value := by
  cases sized with
  | integer => exact Iff.rfl
  | text content => exact Int.ofNat_le.symm

theorem obeyed_len_iff (sized : value.Sized .text size) :
    (Rule.len bound).Obeyed presence value ↔ size = bound.value := by
  cases sized with
  | text content => exact Int.ofNat_inj.symm

end Value.Sized

namespace Expression

theorem known_min (valueClass : ValueClass) (bound : Numeral) :
    known valueClass (.min bound) = true := by
  cases valueClass <;> rfl

theorem known_max (valueClass : ValueClass) (bound : Numeral) :
    known valueClass (.max bound) = true := by
  cases valueClass <;> rfl

theorem writes_intercalate (valueClass : ValueClass) (written : List Rule) :
    Writes valueClass written (",".intercalate (written.map Rule.write)) := by
  refine ⟨written.map (fun rule => rule.write.toList), ?_, ?_⟩
  · induction written with
    | nil => exact .nil
    | cons rule written induction =>
        exact .rule rule.spelled_write (Text.padded_self _) induction
  · apply String.toList_inj.mp
    simp only [String.toList_intercalate, String.toList_ofList, List.map_map]
    rfl

end Expression

namespace Validator

section Judgements

variable {validator : Validator} {datum : Datum} {valueClass : ValueClass}
  {size : Int} {low high : Numeral} {condition other : Prop}

theorem Judges.congr {written : List Rule}
    (judges : validator.Judges datum valueClass written condition)
    (same : condition ↔ other) :
    validator.Judges datum valueClass written other := by
  rw [← propext same]
  exact judges

/-- Written rules of a class with bounds in range judge a datum of the class by
what they ask of its value. -/
theorem judges_of_inRange (hasSize : datum.HasSize valueClass size)
    {written : List Rule}
    (known : ∀ rule ∈ written, Expression.known valueClass rule = true)
    (inRange : ∀ rule ∈ written, rule.InRange) :
    validator.Judges datum valueClass written
      (∀ rule ∈ written,
        rule.Obeyed validator.settings.presence datum.value) := by
  intro key label rules writes
  let field : Field := ⟨key, label, datum.value, rules⟩
  have classified : field.kind.valueClass? = some valueClass :=
    hasSize.sized.classified
  have stated : field.stated valueClass = written := by
    unfold Field.stated
    rw [Expression.rules_of_writes writes, List.filter_eq_self]
    exact known
  have fieldInRange : field.InRange := by
    intro other otherClassified rule member
    obtain rfl : valueClass = other :=
      Option.some.inj (classified.symm.trans otherClassified)
    exact inRange rule (stated ▸ member)
  have ended : ∃ message?, validator.check field = .ok message? :=
    exists_check_eq_ok fieldInRange
  have accepted : validator.check field = .ok none ↔
      ∀ rule ∈ written,
        rule.Obeyed validator.settings.presence datum.value := by
    rw [← stated]
    exact check_eq_ok_none_iff_obeyed classified fieldInRange
  refine ⟨accepted, ?_⟩
  obtain ⟨message?, checked⟩ := ended
  rw [← accepted, checked]
  cases message? <;> simp

theorem judges_rule (hasSize : datum.HasSize valueClass size) {rule : Rule}
    (known : Expression.known valueClass rule = true) (inRange : rule.InRange)
    (meaning : rule.Obeyed validator.settings.presence datum.value ↔
      condition) :
    validator.Judges datum valueClass [rule] condition := by
  refine (judges_of_inRange hasSize ?_ ?_).congr ?_
  · exact List.forall_mem_singleton.mpr known
  · exact List.forall_mem_singleton.mpr inRange
  · rw [List.forall_mem_singleton]
    exact meaning

theorem judges_min (hasSize : datum.HasSize valueClass size)
    (lowInRange : low.value < 2 ^ 64) :
    validator.Judges datum valueClass [.min low] (low.value ≤ size) :=
  judges_rule hasSize (Expression.known_min valueClass low)
    ((Rule.inRange_iff_of_bound rfl).mpr lowInRange)
    hasSize.sized.obeyed_min_iff

theorem judges_max (hasSize : datum.HasSize valueClass size)
    (highInRange : high.value < 2 ^ 64) :
    validator.Judges datum valueClass [.max high] (size ≤ high.value) :=
  judges_rule hasSize (Expression.known_max valueClass high)
    ((Rule.inRange_iff_of_bound rfl).mpr highInRange)
    hasSize.sized.obeyed_max_iff

theorem judges_len (hasSize : datum.HasSize .text size)
    (lowInRange : low.value < 2 ^ 64) :
    validator.Judges datum .text [.len low] (size = low.value) :=
  judges_rule hasSize rfl ((Rule.inRange_iff_of_bound rfl).mpr lowInRange)
    hasSize.sized.obeyed_len_iff

theorem judges_between (hasSize : datum.HasSize valueClass size)
    (lowInRange : low.value < 2 ^ 64) (highInRange : high.value < 2 ^ 64) :
    validator.Judges datum valueClass [.min low, .max high]
      (low.value ≤ size ∧ size ≤ high.value) := by
  refine (judges_of_inRange hasSize ?_ ?_).congr ?_
  · exact List.forall_mem_cons.mpr
      ⟨Expression.known_min valueClass low,
        List.forall_mem_singleton.mpr (Expression.known_max valueClass high)⟩
  · exact List.forall_mem_cons.mpr
      ⟨(Rule.inRange_iff_of_bound rfl).mpr lowInRange,
        List.forall_mem_singleton.mpr
          ((Rule.inRange_iff_of_bound rfl).mpr highInRange)⟩
  · rw [List.forall_mem_cons, List.forall_mem_singleton]
    exact and_congr hasSize.sized.obeyed_min_iff hasSize.sized.obeyed_max_iff

end Judgements

/-- How bounds in range judge a datum with a size.  The least bound asks for a
size that is not smaller, the greatest for one that is not larger, and both
together for a size between them, which there is none if they are crossed; the
exact bound of a text asks for this size.  So numbers below zero break every
least bound and obey every greatest one, and the other way round with sizes
beyond sixty-four bits. -/
theorem judgement_of_size (validator : Validator) {datum : Datum}
    {valueClass : ValueClass} {size : Int}
    (hasSize : datum.HasSize valueClass size) {low high : Numeral}
    (lowInRange : low.value < 2 ^ 64) (highInRange : high.value < 2 ^ 64) :
    validator.Judges datum valueClass [.min low] (low.value ≤ size) ∧
    validator.Judges datum valueClass [.max high] (size ≤ high.value) ∧
    (valueClass = .text →
      validator.Judges datum valueClass [.len low] (size = low.value)) ∧
    validator.Judges datum valueClass [.min low, .max high]
      (low.value ≤ size ∧ size ≤ high.value) ∧
    (high.value < low.value →
      validator.Judges datum valueClass [.min low, .max high] False) ∧
    (size < 0 →
      validator.Judges datum valueClass [.min low] False ∧
      validator.Judges datum valueClass [.max high] True) ∧
    (2 ^ 64 ≤ size →
      validator.Judges datum valueClass [.min low] True ∧
      validator.Judges datum valueClass [.max high] False) := by
  have least : validator.Judges datum valueClass [.min low]
      (low.value ≤ size) :=
    judges_min hasSize lowInRange
  have greatest : validator.Judges datum valueClass [.max high]
      (size ≤ high.value) :=
    judges_max hasSize highInRange
  have between : validator.Judges datum valueClass [.min low, .max high]
      (low.value ≤ size ∧ size ≤ high.value) :=
    judges_between hasSize lowInRange highInRange
  refine ⟨least, greatest, ?_, between, ?_, ?_, ?_⟩
  · rintro rfl
    exact judges_len hasSize lowInRange
  · intro crossed
    exact between.congr (iff_false_intro (by omega))
  · intro negative
    exact ⟨least.congr (iff_false_intro (by omega)),
      greatest.congr (iff_true_intro (by omega))⟩
  · intro beyond
    exact ⟨least.congr (iff_true_intro (by omega)),
      greatest.congr (iff_false_intro (by omega))⟩

/-- The least number of 128 bits with a sign, in a box, is below zero; the
greatest number of sixty-four bits without one, behind a reference, obeys a
least bound that is its equal and not a greatest bound that is one less. -/
theorem judgement_of_size_extremes :
    let zero : Numeral := ⟨['0'], by simp, by simp⟩
    let last : Numeral := ⟨"18446744073709551615".toList, by simp, by simp⟩
    let short : Numeral := ⟨"18446744073709551614".toList, by simp, by simp⟩
    let least : Datum := .box (.integer ⟨true, 128⟩ (by decide)
      (BitVec.intMin 128))
    let greatest : Datum := .reference (.integer ⟨false, 64⟩ (by decide)
      (BitVec.allOnes 64))
    least.HasSize .integer (-2 ^ 127) ∧
      greatest.HasSize .integer (2 ^ 64 - 1) ∧
      zero.value < 2 ^ 64 ∧ last.value < 2 ^ 64 ∧ short.value < 2 ^ 64 ∧
      (∃ message, Validator.standard.check
        ⟨"floor", "", least.value, "min=0"⟩ = .ok (some message)) ∧
      Validator.standard.check
        ⟨"floor", "", least.value, "max=0"⟩ = .ok none ∧
      Validator.standard.check ⟨"count", "", greatest.value,
        "min=18446744073709551615"⟩ = .ok none ∧
      ∃ message, Validator.standard.check ⟨"count", "", greatest.value,
        "max=18446744073709551614"⟩ = .ok (some message) := by
  intro zero last short least greatest
  have written : ∀ rule : Rule,
      Expression.Writes .integer [rule] (",".intercalate [rule.write]) :=
    fun rule => Expression.writes_intercalate .integer [rule]
  have leastSize : least.HasSize .integer (-2 ^ 127) := .box (.integer _ _)
  have greatestSize : greatest.HasSize .integer (2 ^ 64 - 1) :=
    .reference (.integer _ _)
  have zeroInRange : zero.value < 2 ^ 64 := by decide
  have lastInRange : last.value < 2 ^ 64 := by decide
  have shortInRange : short.value < 2 ^ 64 := by decide
  obtain ⟨fromZero, toZero, _⟩ :=
    judgement_of_size Validator.standard leastSize zeroInRange zeroInRange
  obtain ⟨fromLast, toShort, _⟩ :=
    judgement_of_size Validator.standard greatestSize lastInRange shortInRange
  exact ⟨leastSize, greatestSize, zeroInRange, lastInRange, shortInRange,
    (fromZero "floor" "" _ (written (.min zero))).2.mpr (by decide),
    (toZero "floor" "" _ (written (.max zero))).1.mpr (by decide),
    (fromLast "count" "" _ (written (.min last))).1.mpr (by decide),
    (toShort "count" "" _ (written (.max short))).2.mpr (by decide)⟩

end Validator

end FieldCheck
