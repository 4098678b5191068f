import FieldCheck.Rule.Expression
import Mathlib.Data.List.TakeWhile

/-!
# Reading rule expressions

What a token is read as, and what is left of an expression that holds nothing
but blanks.
-/

namespace FieldCheck

namespace RuleName

theorem name_of_read? {name : RuleName} {token : String} {rule : Rule}
    (read : name.read? token = some rule) : rule.name = name := by
  cases name with
  | required | alpha | email =>
      simp only [read?, Option.ite_none_right_eq_some,
        Option.some.injEq] at read
      obtain ⟨_, rfl⟩ := read
      rfl
  | len | min | max =>
      obtain ⟨bound, _, rfl⟩ := Option.map_eq_some_iff.mp read
      rfl

theorem read?_empty (name : RuleName) : name.read? "" = none := by
  cases name <;> rfl

end RuleName

namespace ValueClass

theorem name_mem_vocabulary {valueClass : ValueClass} {token : String}
    {rule : Rule} (read : valueClass.rule? token = some rule) :
    rule.name ∈ valueClass.vocabulary := by
  obtain ⟨name, member, nameRead⟩ := List.exists_of_findSome?_eq_some read
  rw [RuleName.name_of_read? nameRead]
  exact member

theorem rule?_empty (valueClass : ValueClass) :
    valueClass.rule? "" = none := by
  unfold rule?
  rw [List.findSome?_eq_none_iff]
  intro name _
  exact name.read?_empty

end ValueClass

namespace Text

theorem trimmed_eq_nil_iff {characters : List Char} :
    trimmed characters = [] ↔
      ∀ character ∈ characters, isBlank character = true := by
  unfold trimmed
  rw [List.reverse_eq_nil_iff, List.dropWhile_eq_nil_iff]
  constructor
  · intro restBlank
    apply List.dropWhile_eq_nil_iff.mp
    cases left : characters.dropWhile isBlank with
    | nil => rfl
    | cons first rest =>
        have blank : isBlank first = true :=
          restBlank first (by simp [left])
        have notBlank := List.head_dropWhile_not isBlank
          (show characters.dropWhile isBlank ≠ [] by simp [left])
        simp [left, blank] at notBlank
  · intro allBlank
    rw [List.dropWhile_eq_nil_iff.mpr allBlank]
    simp

end Text

namespace Expression

open Text

theorem isBlank_iff {expression : String} :
    isBlank expression = true ↔
      ∀ character ∈ expression.toList, Text.isBlank character = true := by
  unfold isBlank
  rw [List.isEmpty_iff, trimmed_eq_nil_iff]

/-- A blank expression is a single token, the empty one. -/
theorem tokens_of_isBlank {expression : String}
    (blank : isBlank expression = true) : tokens expression = [""] := by
  have allBlank := isBlank_iff.mp blank
  have noComma : ',' ∉ expression.toList := by
    intro member
    exact absurd (allBlank ',' member) (by decide)
  unfold tokens
  rw [List.splitOn_eq_singleton noComma, List.map_singleton,
    trimmed_eq_nil_iff.mpr allBlank]

theorem rules_of_isBlank {expression : String}
    (blank : isBlank expression = true) (valueClass : ValueClass) :
    rules valueClass expression = [] := by
  unfold rules
  rw [tokens_of_isBlank blank,
    List.filterMap_cons_none valueClass.rule?_empty, List.filterMap_nil]

end Expression

end FieldCheck
