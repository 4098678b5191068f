import FieldCheck.Proofs.ExpressionSequence
import FieldCheck.Proofs.ExpressionWriting

/-!
# A verdict as a conjunction of rules

When all bounds that a field states can be read, a check of the field comes to
a verdict, and nothing is found exactly when the value obeys every stated rule.
Neither the order of the rules nor their number matters for this, and of a
bound only the number that it denotes does.
-/

namespace FieldCheck

namespace Rule

/-- What is demanded by a rule: its name and the number that its bound
denotes. -/
def demand (rule : Rule) : RuleName × Option Nat :=
  (rule.name, rule.bound?.map Numeral.value)

section Demands

variable {presence : Presence} {value : Value} {left right : Rule}

theorem obeyed_congr (same : left.demand = right.demand) :
    left.Obeyed presence value ↔ right.Obeyed presence value := by
  obtain ⟨sameName, sameBound⟩ := Prod.mk.inj same
  cases left <;> cases right <;> cases sameName <;>
    simp only [bound?, Option.map_some, Option.some.injEq] at sameBound <;>
    cases value <;> simp only [Obeyed, sameBound]

/-- A length is exact when it is neither too small nor too large. -/
theorem obeyed_len_iff {bound : Numeral} {content : String} :
    (len bound).Obeyed presence (.text content) ↔
      (min bound).Obeyed presence (.text content) ∧
        (max bound).Obeyed presence (.text content) := by
  simp only [Obeyed]
  omega

theorem forall_obeyed_of_demands {stated others : List Rule}
    (demanded : ∀ rule ∈ stated, ∃ other ∈ others,
      other.demand = rule.demand)
    (obeyed : ∀ other ∈ others, other.Obeyed presence value) :
    ∀ rule ∈ stated, rule.Obeyed presence value := by
  intro rule member
  obtain ⟨other, otherMember, same⟩ := demanded rule member
  exact (obeyed_congr same).mp (obeyed other otherMember)

end Demands

instance (rule : Rule) : Decidable rule.InRange :=
  decidable_of_iff
    (rule.bound?.all (fun bound => bound.value < 2 ^ 64) = true)
    (by simp [InRange, Option.all_eq_true])

end Rule

namespace Field

/-- All bounds that a field states for a value of its kind can be read. -/
def InRange (field : Field) : Prop :=
  ∀ valueClass, field.kind.valueClass? = some valueClass →
    ∀ rule ∈ field.stated valueClass, rule.InRange

instance (field : Field) : Decidable field.InRange :=
  decidable_of_iff
    (field.kind.valueClass?.all (fun valueClass =>
      (field.stated valueClass).all (fun rule => rule.InRange)) = true)
    (by simp [InRange, Option.all_eq_true])

section Bounds

variable {presence : Presence} {valueClass : ValueClass} {field : Field}

theorem not_defect_of_inRange (inRange : field.InRange) (fault : RuleFault) :
    ¬ field.Defect presence fault := by
  intro defect
  obtain ⟨valueClass, classified, before, rule, after, bound, equal, _,
    bounded, large, _⟩ := defect
  have stated : rule ∈ field.stated valueClass := by
    rw [equal]
    simp
  have small : bound.value < 2 ^ 64 :=
    inRange valueClass classified rule stated bound bounded
  exact absurd large (Nat.not_le.mpr small)

theorem verdict_eq_ok_none_iff_obeyed
    (classified : field.kind.valueClass? = some valueClass)
    (inRange : field.InRange) :
    field.verdict presence = .ok none ↔
      ∀ rule ∈ field.stated valueClass,
        rule.Obeyed presence field.value := by
  rw [verdict_eq_ok_none_iff]
  constructor
  · intro passed rule stated
    exact (passed valueClass classified rule stated).obeyed
  · intro obeyed other otherClassified rule stated
    have same : valueClass = other :=
      Option.some.inj (classified.symm.trans otherClassified)
    subst same
    exact ⟨inRange valueClass classified rule stated, obeyed rule stated⟩

theorem stated_of_tokens {written : List Rule} {front back : List String}
    (known : ∀ rule ∈ written, rule.name ∈ valueClass.vocabulary)
    (tokens : Expression.tokens field.rules =
      front ++ written.map Rule.write ++ back) :
    field.stated valueClass =
      front.filterMap valueClass.rule? ++ written ++
        back.filterMap valueClass.rule? := by
  have read : (written.map Rule.write).filterMap valueClass.rule? =
      written :=
    calc
      (written.map Rule.write).filterMap valueClass.rule? =
          written.filterMap (valueClass.rule? ∘ Rule.write) :=
        List.filterMap_map
      _ = written.filterMap some := by
        apply List.filterMap_congr
        intro rule member
        exact ValueClass.rule?_eq_some_iff.mpr ⟨known rule member, rfl⟩
      _ = written := List.filterMap_some
  unfold stated Expression.rules
  rw [tokens, List.filterMap_append, List.filterMap_append, read]

end Bounds

/-- Two fields with the same text differ in one place: where one states an
exact length, the other states it as the least and as the greatest length. -/
structure SplitsLength (content : String) (bound : Numeral)
    (exact split : Field) : Prop where
  exactValue : exact.value = .text content
  splitValue : split.value = .text content
  tokens : ∃ front back,
    Expression.tokens exact.rules =
      front ++ ["len=" ++ bound.text] ++ back ∧
    Expression.tokens split.rules =
      front ++ ["min=" ++ bound.text, "max=" ++ bound.text] ++ back

theorem valueClass?_of_text {field : Field} {content : String}
    (value : field.value = .text content) :
    field.kind.valueClass? = some .text := by
  unfold kind
  rw [value]
  rfl

section Lengths

variable {presence : Presence} {content : String} {bound : Numeral}
  {exact split : Field}

theorem SplitsLength.stated
    (splits : SplitsLength content bound exact split) :
    ∃ front back,
      exact.stated .text = front ++ [.len bound] ++ back ∧
      split.stated .text = front ++ [.min bound, .max bound] ++ back := by
  obtain ⟨front, back, exactTokens, splitTokens⟩ := splits.tokens
  have len : "len=" ++ bound.text = (Rule.len bound).write :=
    (Rule.Spelled.len bound).eq_write
  have min : "min=" ++ bound.text = (Rule.min bound).write :=
    (Rule.Spelled.min bound).eq_write
  have max : "max=" ++ bound.text = (Rule.max bound).write :=
    (Rule.Spelled.max bound).eq_write
  have known : ∀ rules : List Rule, ∀ rule ∈ rules,
      rule.name ∈ ValueClass.text.vocabulary :=
    fun _ _ _ => Expression.mem_vocabulary_iff_known.mpr rfl
  refine ⟨front.filterMap ValueClass.text.rule?,
    back.filterMap ValueClass.text.rule?, ?_, ?_⟩
  · apply stated_of_tokens (known [.len bound])
    rw [exactTokens, len]
    rfl
  · apply stated_of_tokens (known [.min bound, .max bound])
    rw [splitTokens, min, max]
    rfl

theorem SplitsLength.inRange
    (splits : SplitsLength content bound exact split)
    (inRange : exact.InRange) : split.InRange := by
  obtain ⟨front, back, exactStated, splitStated⟩ := splits.stated
  have exactInRange : ∀ rule ∈ exact.stated .text, rule.InRange :=
    inRange .text (valueClass?_of_text splits.exactValue)
  rw [exactStated] at exactInRange
  have boundInRange : bound.value < 2 ^ 64 :=
    exactInRange (.len bound) (by simp) bound rfl
  intro valueClass classified rule stated
  rw [valueClass?_of_text splits.splitValue] at classified
  obtain rfl := Option.some.inj classified
  rw [splitStated, List.mem_append, List.mem_append] at stated
  rcases stated with (inFront | inMiddle) | inBack
  · exact exactInRange rule (by simp [inFront])
  · rcases List.mem_pair.mp inMiddle with rfl | rfl
    · exact (Rule.inRange_iff_of_bound rfl).mpr boundInRange
    · exact (Rule.inRange_iff_of_bound rfl).mpr boundInRange
  · exact exactInRange rule (by simp [inBack])

/-- The text obeys the rules of the two fields alike. -/
theorem SplitsLength.forall_obeyed_iff
    (splits : SplitsLength content bound exact split) :
    (∀ rule ∈ exact.stated .text, rule.Obeyed presence exact.value) ↔
      ∀ rule ∈ split.stated .text, rule.Obeyed presence split.value := by
  obtain ⟨front, back, exactStated, splitStated⟩ := splits.stated
  rw [exactStated, splitStated, splits.exactValue, splits.splitValue]
  simp only [List.forall_mem_append, List.forall_mem_cons,
    List.not_mem_nil, IsEmpty.forall_iff, implies_true, and_true,
    Rule.obeyed_len_iff]

end Lengths

end Field

namespace Validator

section Conjunctions

variable {validator : Validator} {valueClass : ValueClass} {field : Field}

theorem exists_check_eq_ok (inRange : field.InRange) :
    ∃ message?, validator.check field = .ok message? := by
  cases checked : validator.check field with
  | ok message? => exact ⟨message?, rfl⟩
  | error fault =>
      have defect := check_eq_error_iff.mp checked
      exact absurd defect (Field.not_defect_of_inRange inRange fault)

theorem check_eq_ok_none_iff_obeyed
    (classified : field.kind.valueClass? = some valueClass)
    (inRange : field.InRange) :
    validator.check field = .ok none ↔
      ∀ rule ∈ field.stated valueClass,
        rule.Obeyed validator.settings.presence field.value :=
  check_eq_ok_none_iff.trans
    (Field.verdict_eq_ok_none_iff_obeyed classified inRange)

end Conjunctions

/-- The verdict on a field with bounds in range.  A check of the field comes to
its end, and it finds nothing exactly when the value obeys all rules that the
field states.  So it finds nothing in a field exactly when it finds nothing in
another one with this value whose rules make the same demands, in any order and
any number, or in which an exact length is stated as least and greatest one. -/
theorem verdict_of_stated_rules (validator : Validator) {field : Field}
    {valueClass : ValueClass}
    (classified : field.kind.valueClass? = some valueClass)
    (inRange : field.InRange) :
    (∃ message?, validator.check field = .ok message?) ∧
    (validator.check field = .ok none ↔
      ∀ rule ∈ field.stated valueClass,
        rule.Obeyed validator.settings.presence field.value) ∧
    (∀ other : Field, other.value = field.value → other.InRange →
      (∀ demand, demand ∈ (field.stated valueClass).map Rule.demand ↔
        demand ∈ (other.stated valueClass).map Rule.demand) →
      (validator.check field = .ok none ↔
        validator.check other = .ok none)) ∧
    (∀ content bound other, Field.SplitsLength content bound field other →
      (∃ message?, validator.check other = .ok message?) ∧
      (validator.check field = .ok none ↔
        validator.check other = .ok none)) := by
  refine ⟨exists_check_eq_ok inRange,
    check_eq_ok_none_iff_obeyed classified inRange, ?_, ?_⟩
  · intro other sameValue otherInRange sameDemands
    have otherClassified : other.kind.valueClass? = some valueClass := by
      unfold Field.kind
      rw [sameValue]
      exact classified
    rw [check_eq_ok_none_iff_obeyed classified inRange,
      check_eq_ok_none_iff_obeyed otherClassified otherInRange, sameValue]
    constructor
    · apply Rule.forall_obeyed_of_demands
      intro rule member
      exact List.mem_map.mp
        ((sameDemands rule.demand).mpr (List.mem_map_of_mem member))
    · apply Rule.forall_obeyed_of_demands
      intro rule member
      exact List.mem_map.mp
        ((sameDemands rule.demand).mp (List.mem_map_of_mem member))
  · intro content bound other splits
    have isText : field.kind.valueClass? = some .text :=
      Field.valueClass?_of_text splits.exactValue
    have otherIsText : other.kind.valueClass? = some .text :=
      Field.valueClass?_of_text splits.splitValue
    have otherInRange : other.InRange := splits.inRange inRange
    refine ⟨exists_check_eq_ok otherInRange, ?_⟩
    rw [check_eq_ok_none_iff_obeyed isText inRange,
      check_eq_ok_none_iff_obeyed otherIsText otherInRange]
    exact splits.forall_obeyed_iff

/-- Three rules on a name are stated in another order, with another zero and
one of them twice; and its exact length is stated by two bounds. -/
theorem verdict_of_stated_rules_name :
    let three : Numeral := ⟨['3'], by simp, by simp⟩
    let field : Field := ⟨"name", "", .text "Bob", "max=05, len=3 ,alpha"⟩
    let other : Field :=
      ⟨"nick", "Nick", .text "Bob", "alpha,len=03,x,max=5,len=3"⟩
    let split : Field := ⟨"name", "", .text "Bob", "max=05,min=3,max=3,alpha"⟩
    field.InRange ∧ Field.SplitsLength "Bob" three field split ∧
      Validator.standard.check field = .ok none ∧
      Validator.standard.check other = .ok none ∧
      Validator.standard.check split = .ok none := by
  intro three field other split
  have classified : field.kind.valueClass? = some .text := rfl
  have fieldInRange : field.InRange := by decide
  have otherInRange : other.InRange := by decide
  have demanded : ∀ demand ∈ (field.stated .text).map Rule.demand,
      demand ∈ (other.stated .text).map Rule.demand := by
    decide
  have demandedBack : ∀ demand ∈ (other.stated .text).map Rule.demand,
      demand ∈ (field.stated .text).map Rule.demand := by
    decide
  have sameDemands : ∀ demand,
      demand ∈ (field.stated .text).map Rule.demand ↔
        demand ∈ (other.stated .text).map Rule.demand :=
    fun demand => ⟨demanded demand, demandedBack demand⟩
  have splits : Field.SplitsLength "Bob" three field split :=
    ⟨rfl, rfl, ["max=05"], ["alpha"], by decide, by decide⟩
  obtain ⟨_, _, ofOther, ofSplit⟩ :=
    verdict_of_stated_rules Validator.standard classified fieldInRange
  have passed : Validator.standard.check field = .ok none := by
    decide
  exact ⟨fieldInRange, splits, passed,
    (ofOther other rfl otherInRange sameDemands).mp passed,
    (ofSplit "Bob" three split splits).2.mp passed⟩

end Validator

end FieldCheck
