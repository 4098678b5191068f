import FieldCheck.Proofs.ExpressionReading
import Mathlib.Data.List.Basic

/-!
# The grammar of rule tokens

A rule is written as its name, and a rule with a bound has `=` and the digits
of the bound behind that.  The name is what stands before the first `=`, so no
two rules are written alike.  A class of values reads exactly the written forms
of the rules that exist for it, and gives back the rule as it was written.
-/

namespace FieldCheck

theorem RuleName.text_injective : Function.Injective RuleName.text := by
  intro left right same
  cases left <;> cases right <;> simp_all [RuleName.text]

theorem Numeral.ext_digits {left right : Numeral}
    (same : left.digits = right.digits) : left = right := by
  cases left
  cases right
  simpa using same

namespace Rule

def suffix (rule : Rule) : List Char :=
  match rule.bound? with
  | none => []
  | some bound => '=' :: bound.digits

theorem toList_write (rule : Rule) :
    rule.write.toList = rule.name.text.toList ++ rule.suffix := by
  unfold write parts suffix literal?
  cases rule.bound? with
  | none => simp
  | some bound => simp [Numeral.text]

theorem write_of_no_bound {rule : Rule} (unbounded : rule.bound? = none) :
    rule.write = rule.name.text := by
  apply String.toList_inj.mp
  rw [toList_write, suffix, unbounded, List.append_nil]

theorem write_of_bound {rule : Rule} {bound : Numeral}
    (bounded : rule.bound? = some bound) :
    rule.write = rule.name.text ++ "=" ++ bound.text := by
  apply String.toList_inj.mp
  rw [toList_write, suffix, bounded]
  simp [Numeral.text]

theorem eq_write_iff {rule : Rule} {token : String} :
    token = rule.write ↔
      token.toList = rule.name.text.toList ++ rule.suffix := by
  rw [← toList_write, String.toList_inj]

theorem ext_name_bound? {left right : Rule}
    (sameName : left.name = right.name)
    (sameBound : left.bound? = right.bound?) : left = right := by
  cases left <;> cases right <;> simp_all [name, bound?]

theorem bound?_eq_of_suffix_eq {left right : Rule}
    (same : left.suffix = right.suffix) : left.bound? = right.bound? := by
  unfold suffix at same
  cases leftBound : left.bound? with
  | none =>
      cases rightBound : right.bound? with
      | none => rfl
      | some bound => simp [leftBound, rightBound] at same
  | some bound =>
      cases rightBound : right.bound? with
      | none => simp [leftBound, rightBound] at same
      | some other =>
          have sameDigits : bound.digits = other.digits := by
            simpa [leftBound, rightBound] using same
          rw [Numeral.ext_digits sameDigits]

theorem takeWhile_toList_write (rule : Rule) :
    rule.write.toList.takeWhile (· != '=') = rule.name.text.toList := by
  have plain : ∀ character ∈ rule.name.text.toList,
      (character != '=') = true := by
    cases rule.name <;> simp [RuleName.text]
  have stopped : rule.suffix.takeWhile (· != '=') = [] := by
    unfold suffix
    cases rule.bound? <;> simp
  rw [toList_write, List.takeWhile_append_of_pos plain, stopped,
    List.append_nil]

/-- How a rule is spelled, and the literal that stands in it. -/
inductive Spelled : Rule → String → Option String → Prop where
  | required : Spelled .required "required" none
  | alpha : Spelled .alpha "alpha" none
  | email : Spelled .email "email" none
  | len (bound : Numeral) :
      Spelled (.len bound) ("len=" ++ bound.text) (some bound.text)
  | min (bound : Numeral) :
      Spelled (.min bound) ("min=" ++ bound.text) (some bound.text)
  | max (bound : Numeral) :
      Spelled (.max bound) ("max=" ++ bound.text) (some bound.text)

theorem spelled_write (rule : Rule) :
    Spelled rule rule.write rule.literal? := by
  cases rule with
  | required => exact .required
  | alpha => exact .alpha
  | email => exact .email
  | len bound =>
      have written : (Rule.len bound).write = "len=" ++ bound.text :=
        write_of_bound rfl
      rw [written]
      exact .len bound
  | min bound =>
      have written : (Rule.min bound).write = "min=" ++ bound.text :=
        write_of_bound rfl
      rw [written]
      exact .min bound
  | max bound =>
      have written : (Rule.max bound).write = "max=" ++ bound.text :=
        write_of_bound rfl
      rw [written]
      exact .max bound

theorem Spelled.unique {rule : Rule} {left right : String}
    {leftLiteral? rightLiteral? : Option String}
    (isLeft : Spelled rule left leftLiteral?)
    (isRight : Spelled rule right rightLiteral?) : left = right := by
  cases isLeft <;> cases isRight <;> rfl

theorem Spelled.eq_write {rule : Rule} {token : String}
    {literal? : Option String} (spelled : Spelled rule token literal?) :
    token = rule.write :=
  spelled.unique rule.spelled_write

theorem write_injective : Function.Injective write := by
  intro left right same
  have sameText : left.name.text = right.name.text := by
    apply String.toList_inj.mp
    rw [← takeWhile_toList_write, ← takeWhile_toList_write, same]
  have sameName : left.name = right.name := RuleName.text_injective sameText
  have sameSuffix : left.suffix = right.suffix := by
    have sameTokens := congrArg String.toList same
    rw [toList_write, toList_write, sameName] at sameTokens
    exact List.append_cancel_left sameTokens
  exact ext_name_bound? sameName (bound?_eq_of_suffix_eq sameSuffix)

theorem not_blank_of_isDigit {character : Char}
    (digit : character.isDigit = true) :
    Text.isBlank character = false ∧ character ≠ ',' := by
  have code : 48 ≤ character.toNat ∧ character.toNat ≤ 57 := by
    simpa [Char.isDigit, UInt32.le_iff_toNat_le] using digit
  constructor
  · exact Text.not_blank_of_printable (by omega) (by omega)
  · rintro rfl
    simp at code

/-- The characters of a written rule are letters, digits and `=`. -/
theorem not_blank_of_mem_write {rule : Rule} {character : Char}
    (member : character ∈ rule.write.toList) :
    Text.isBlank character = false ∧ character ≠ ',' := by
  rw [toList_write, List.mem_append] at member
  rcases member with inName | inSuffix
  · revert character
    cases rule.name <;> simp [RuleName.text, Text.isBlank]
  · unfold suffix at inSuffix
    cases bounded : rule.bound? with
    | none => simp [bounded] at inSuffix
    | some bound =>
        simp only [bounded, List.mem_cons] at inSuffix
        rcases inSuffix with rfl | inDigits
        · decide
        · exact not_blank_of_isDigit (bound.decimal character inDigits)

end Rule

namespace RuleName

theorem boundAfter?_eq_some_iff {word token : String} {bound : Numeral} :
    boundAfter? word token = some bound ↔
      token.toList = word.toList ++ '=' :: bound.digits := by
  unfold boundAfter?
  rw [Option.bind_eq_some_iff]
  simp only [List.isPrefixOf?_eq_some_iff_append_eq,
    Numeral.ofChars?_eq_some_iff]
  simp [eq_comm]

section Families

variable {token : String} {rule : Rule}

private theorem read_alone_iff (alone : Rule)
    (unbounded : alone.bound? = none)
    (only : rule.name = alone.name → rule = alone) :
    (if token = alone.name.text then some alone else none) = some rule ↔
      rule.name = alone.name ∧ token = rule.write := by
  rw [Option.ite_none_right_eq_some, Option.some.injEq,
    ← Rule.write_of_no_bound unbounded]
  constructor
  · intro described
    obtain ⟨rfl, rfl⟩ := described
    exact ⟨rfl, rfl⟩
  · intro described
    obtain ⟨named, rfl⟩ := described
    rw [only named]
    exact ⟨rfl, rfl⟩

private theorem read_bounded_iff {name : RuleName} {make : Numeral → Rule}
    (named : ∀ bound, (make bound).name = name)
    (bounded : ∀ bound, (make bound).bound? = some bound)
    (only : rule.name = name → ∃ bound, rule = make bound) :
    (boundAfter? name.text token).map make = some rule ↔
      rule.name = name ∧ token = rule.write := by
  have written : ∀ bound, token = (make bound).write ↔
      boundAfter? name.text token = some bound := by
    intro bound
    rw [Rule.eq_write_iff, Rule.suffix, bounded, named,
      boundAfter?_eq_some_iff]
  rw [Option.map_eq_some_iff]
  constructor
  · intro described
    obtain ⟨bound, read, rfl⟩ := described
    exact ⟨named bound, (written bound).mpr read⟩
  · intro described
    obtain ⟨hasName, equal⟩ := described
    obtain ⟨bound, rfl⟩ := only hasName
    exact ⟨bound, (written bound).mp equal, rfl⟩

end Families

/-- A token is read under a name exactly when it is a written rule of this
name. -/
theorem read?_eq_some_iff {name : RuleName} {token : String} {rule : Rule} :
    name.read? token = some rule ↔
      rule.name = name ∧ token = rule.write := by
  cases name with
  | required =>
      exact read_alone_iff .required rfl (by cases rule <;> simp [Rule.name])
  | alpha =>
      exact read_alone_iff .alpha rfl (by cases rule <;> simp [Rule.name])
  | email =>
      exact read_alone_iff .email rfl (by cases rule <;> simp [Rule.name])
  | len =>
      exact read_bounded_iff (fun _ => rfl) (fun _ => rfl)
        (by cases rule <;> simp [Rule.name])
  | min =>
      exact read_bounded_iff (fun _ => rfl) (fun _ => rfl)
        (by cases rule <;> simp [Rule.name])
  | max =>
      exact read_bounded_iff (fun _ => rfl) (fun _ => rfl)
        (by cases rule <;> simp [Rule.name])

/-- Names are tried one after the other, and exactly the written forms of rules
of these names are read, in whatever order the names stand. -/
theorem findSome?_read?_eq_some_iff {names : List RuleName}
    {token : String} {rule : Rule} :
    names.findSome? (·.read? token) = some rule ↔
      rule.name ∈ names ∧ token = rule.write := by
  constructor
  · intro read
    obtain ⟨name, member, nameRead⟩ := List.exists_of_findSome?_eq_some read
    obtain ⟨rfl, written⟩ := read?_eq_some_iff.mp nameRead
    exact ⟨member, written⟩
  · intro described
    obtain ⟨member, written⟩ := described
    have ownRead : rule.name.read? token = some rule :=
      read?_eq_some_iff.mpr ⟨rfl, written⟩
    cases read : names.findSome? (·.read? token) with
    | none =>
        rw [List.findSome?_eq_none_iff.mp read rule.name member] at ownRead
        contradiction
    | some other =>
        obtain ⟨name, _, nameRead⟩ := List.exists_of_findSome?_eq_some read
        obtain ⟨_, otherWritten⟩ := read?_eq_some_iff.mp nameRead
        rw [Rule.write_injective (otherWritten.symm.trans written)]

end RuleName

namespace ValueClass

theorem rule?_eq_some_iff {valueClass : ValueClass} {token : String}
    {rule : Rule} :
    valueClass.rule? token = some rule ↔
      rule.name ∈ valueClass.vocabulary ∧ token = rule.write :=
  RuleName.findSome?_read?_eq_some_iff

end ValueClass

end FieldCheck
