import FieldCheck.Datum
import FieldCheck.Proofs.RuleMeaning
import FieldCheck.Proofs.TokenGrammar
import Mathlib.Data.Nat.Digits.Defs
import Mathlib.Data.Set.Operations
import Mathlib.Order.Bounds.Defs

/-!
# The numbers that bounds are read as

The digits of a bound are added up in a range, and a number that leaves the
range on the way is lost.  The outcome is shown to depend on nothing but the
number that the digits denote in base ten: it is this number when the range
goes as far, and otherwise a fault that repeats the digits.
-/

namespace FieldCheck

namespace Numeral

/-- The number that a text of digits denotes in base ten. -/
def denoted (literal : String) : Nat :=
  Nat.ofDigits 10 (literal.toList.reverse.map digitValue)

theorem value_eq_denoted (numeral : Numeral) :
    numeral.value = denoted numeral.text := by
  unfold value denoted text
  rw [String.toList_ofList, Nat.ofDigits_eq_foldr, List.foldr_map,
    List.foldr_reverse]
  simp only [Nat.cast_id, Nat.add_comm]

end Numeral

namespace IntegerKind

theorem cast_greatest (kind : IntegerKind) :
    (kind.greatest : Int) =
      2 ^ (if kind.signed then kind.bits - 1 else kind.bits) - 1 := by
  unfold greatest
  rw [Nat.pow_eq, Nat.cast_sub Nat.one_le_two_pow]
  norm_cast

/-- A range ends at the greatest number that its words stand for. -/
theorem isGreatest_greatest (kind : IntegerKind) :
    IsGreatest (Set.range kind.number) (kind.greatest : Int) := by
  rw [cast_greatest]
  obtain ⟨signed, bits⟩ := kind
  cases signed with
  | true =>
      refine ⟨⟨BitVec.intMax bits, BitVec.toInt_intMax⟩, ?_⟩
      rintro _ ⟨word, rfl⟩
      exact Int.le_sub_one_of_lt BitVec.toInt_lt
  | false =>
      refine ⟨⟨BitVec.allOnes bits, ?_⟩, ?_⟩
      · change ((BitVec.allOnes bits).toNat : Int) = 2 ^ bits - 1
        rw [BitVec.toNat_allOnes, Nat.cast_sub Nat.one_le_two_pow]
        norm_cast
      · rintro _ ⟨word, rfl⟩
        apply Int.le_sub_one_of_lt
        change (word.toNat : Int) < 2 ^ bits
        exact_mod_cast word.isLt

end IntegerKind

namespace Rule

section Tokens

variable {valueClass : ValueClass} {token literal field : String}
  {rule : Rule} {kind : IntegerKind}

theorem ne_word_append (word literal : String) :
    word ≠ word ++ "=" ++ literal := by
  intro same
  have sameLength := congrArg String.length same
  have one : "=".length = 1 := rfl
  rw [String.length_append, String.length_append] at sameLength
  omega

theorem literal?_eq_none_iff (read : valueClass.rule? token = some rule) :
    rule.literal? = none ↔ token = rule.name.text := by
  obtain ⟨_, rfl⟩ := ValueClass.rule?_eq_some_iff.mp read
  cases bounded : rule.bound? with
  | none => simp [literal?, bounded, write_of_no_bound bounded]
  | some bound =>
      have different := ne_word_append rule.name.text bound.text
      simp [literal?_eq_some bounded, write_of_bound bounded, different.symm]

theorem literal?_eq_some_iff (read : valueClass.rule? token = some rule) :
    rule.literal? = some literal ↔
      token = rule.name.text ++ "=" ++ literal := by
  obtain ⟨_, rfl⟩ := ValueClass.rule?_eq_some_iff.mp read
  cases bounded : rule.bound? with
  | none =>
      have different := ne_word_append rule.name.text literal
      simp [literal?, bounded, write_of_no_bound bounded, different]
  | some bound =>
      rw [literal?_eq_some bounded, write_of_bound bounded, Option.some.injEq]
      constructor
      · rintro rfl
        rfl
      · intro same
        exact (String.append_right_inj _).mp same

theorem exists_bound_of_literal (has : rule.literal? = some literal) :
    ∃ bound, rule.bound? = some bound ∧ bound.text = literal :=
  Option.map_eq_some_iff.mp has

theorem argument_of_literal (has : rule.literal? = some literal) :
    rule.argument kind field =
      if Numeral.denoted literal ≤ kind.greatest
      then .ok (Numeral.denoted literal)
      else .error ⟨field, rule.name, literal⟩ := by
  obtain ⟨bound, bounded, rfl⟩ := exists_bound_of_literal has
  rw [argument_of_bound bounded, bound.value_eq_denoted]

theorem argument_of_no_literal (unbounded : rule.literal? = none) :
    rule.argument kind field = .error ⟨field, rule.name, ""⟩ := by
  have noBound : rule.bound? = none := Option.map_eq_none_iff.mp unbounded
  unfold argument
  rw [noBound, Option.bind_none, unbounded]
  rfl

theorem argument_eq_ok_iff {number : Nat} :
    rule.argument kind field = .ok number ↔
      ∃ literal, rule.literal? = some literal ∧
        number = Numeral.denoted literal ∧ number ≤ kind.greatest := by
  cases has : rule.literal? with
  | none => simp [argument_of_no_literal has]
  | some literal =>
      rw [argument_of_literal has]
      constructor
      · intro read
        by_cases within : Numeral.denoted literal ≤ kind.greatest
        · rw [if_pos within, Except.ok.injEq] at read
          exact ⟨literal, rfl, read.symm, read ▸ within⟩
        · simp [within] at read
      · intro described
        obtain ⟨other, same, rfl, within⟩ := described
        obtain rfl := Option.some.inj same
        rw [if_pos within]

theorem argument_eq_error_iff {fault : RuleFault} :
    rule.argument kind field = .error fault ↔
      (rule.literal? = none ∧ fault = ⟨field, rule.name, ""⟩) ∨
      ∃ literal, rule.literal? = some literal ∧
        kind.greatest < Numeral.denoted literal ∧
        fault = ⟨field, rule.name, literal⟩ := by
  cases has : rule.literal? with
  | none => simp [argument_of_no_literal has, eq_comm]
  | some literal =>
      rw [argument_of_literal has]
      by_cases within : Numeral.denoted literal ≤ kind.greatest
      · simp [within]
      · simp [within, Nat.lt_of_not_le within, eq_comm]

/-- A number that one range holds is read in every range that goes as far. -/
theorem argument_of_wider {wider : IntegerKind} {number : Nat}
    (goesAsFar : kind.greatest ≤ wider.greatest)
    (read : rule.argument kind field = .ok number) :
    rule.argument wider field = .ok number := by
  obtain ⟨literal, has, denoted, within⟩ := argument_eq_ok_iff.mp read
  exact argument_eq_ok_iff.mpr
    ⟨literal, has, denoted, Nat.le_trans within goesAsFar⟩

/-- Zeros in front of a literal and the name of its rule do not count. -/
theorem argument_eq_ok_congr {other : Rule}
    {otherLiteral otherField : String} {number : Nat}
    (has : rule.literal? = some literal)
    (otherHas : other.literal? = some otherLiteral)
    (same : Numeral.denoted literal = Numeral.denoted otherLiteral) :
    rule.argument kind field = .ok number ↔
      other.argument kind otherField = .ok number := by
  rw [argument_eq_ok_iff, argument_eq_ok_iff, has, otherHas]
  simp only [Option.some.injEq, exists_eq_left', same]

end Tokens

/-- The argument of a rule that is read from a token.  It is the number that
the digits behind the name denote, provided that it does not exceed the
greatest number of the range; else there is a fault, which repeats these digits
or is silent if there are none.  So a wider range gives the same number, and so
does any other token with digits for it. -/
theorem argument_of_token {valueClass : ValueClass} {token : String}
    {rule : Rule} (read : valueClass.rule? token = some rule)
    (field : String) (kind : IntegerKind) :
    (∀ number, rule.argument kind field = .ok number ↔
      ∃ literal, token = rule.name.text ++ "=" ++ literal ∧
        number = Numeral.denoted literal ∧ number ≤ kind.greatest) ∧
    (∀ fault, rule.argument kind field = .error fault ↔
      (token = rule.name.text ∧ fault = ⟨field, rule.name, ""⟩) ∨
      ∃ literal, token = rule.name.text ++ "=" ++ literal ∧
        kind.greatest < Numeral.denoted literal ∧
        fault = ⟨field, rule.name, literal⟩) ∧
    IsGreatest (Set.range kind.number) (kind.greatest : Int) ∧
    (∀ wider : IntegerKind, kind.greatest ≤ wider.greatest →
      ∀ number, rule.argument kind field = .ok number →
        rule.argument wider field = .ok number) ∧
    (∀ (otherClass : ValueClass) (otherToken : String) (other : Rule),
      otherClass.rule? otherToken = some other →
      ∀ literal otherLiteral, token = rule.name.text ++ "=" ++ literal →
        otherToken = other.name.text ++ "=" ++ otherLiteral →
        Numeral.denoted literal = Numeral.denoted otherLiteral →
        ∀ otherField number, rule.argument kind field = .ok number ↔
          other.argument kind otherField = .ok number) := by
  refine ⟨?_, ?_, kind.isGreatest_greatest, fun _ goesAsFar _ =>
    argument_of_wider goesAsFar, ?_⟩
  · intro number
    simp only [argument_eq_ok_iff, literal?_eq_some_iff read]
  · intro fault
    simp only [argument_eq_error_iff, literal?_eq_some_iff read,
      literal?_eq_none_iff read]
  · intro otherClass otherToken other otherRead literal otherLiteral shown
      otherShown same otherField number
    exact argument_eq_ok_congr ((literal?_eq_some_iff read).mpr shown)
      ((literal?_eq_some_iff otherRead).mpr otherShown) same

/-- A byte with a sign holds 127 after any number of zeros, and not 128. -/
theorem argument_of_token_zeros :
    let byte : IntegerKind := ⟨true, 8⟩
    let last : Numeral := ⟨['0', '0', '0', '0', '1', '2', '7'], by simp, by simp⟩
    let next : Numeral := ⟨['1', '2', '8'], by simp, by simp⟩
    ValueClass.text.rule? "len=0000127" = some (.len last) ∧
      ValueClass.integer.rule? "max=128" = some (.max next) ∧
      (Rule.len last).argument byte "code" = .ok 127 ∧
      (Rule.len last).argument .word "code" = .ok 127 ∧
      (Rule.max next).argument byte "age" =
        .error ⟨"age", .max, "128"⟩ := by
  intro byte last next
  have lenRead : ValueClass.text.rule? "len=0000127" = some (.len last) := by
    decide
  have maxRead : ValueClass.integer.rule? "max=128" = some (.max next) := by
    decide
  obtain ⟨ok, _, _, wider, _⟩ := argument_of_token lenRead "code" byte
  obtain ⟨_, error, _⟩ := argument_of_token maxRead "age" byte
  have inByte : (Rule.len last).argument byte "code" = .ok 127 :=
    (ok 127).mpr ⟨"0000127", rfl, by decide, by decide⟩
  exact ⟨lenRead, maxRead, inByte, wider .word (by decide) 127 inByte,
    (error _).mpr (.inr ⟨"128", rfl, by decide, rfl⟩)⟩

/-- The ends of the ranges of eight, sixteen, thirty-two, sixty-four and 128
bits, without and with a sign. -/
example :
    ([8, 16, 32, 64, 128].map (fun bits => IntegerKind.greatest ⟨false, bits⟩),
      [8, 16, 32, 64, 128].map (fun bits => IntegerKind.greatest ⟨true, bits⟩)) =
      ([255, 65535, 4294967295, 18446744073709551615,
          340282366920938463463374607431768211455],
        [127, 32767, 2147483647, 9223372036854775807,
          170141183460469231731687303715884105727]) := by
  decide

end Rule

end FieldCheck
