/-!
# Replacing a pattern

`replaceAll` exchanges every occurrence of a pattern, found from left to right
and without overlap.  What has been put in is not searched again.
-/

namespace FieldCheck.Text

/-- Replace the occurrences of `pattern`, after passing over the first
`covered` characters, which belong to an occurrence already replaced. -/
def replaceCovered (pattern replacement : List Char) :
    Nat → List Char → List Char
  | _, [] => []
  | covered + 1, _ :: rest => replaceCovered pattern replacement covered rest
  | 0, character :: rest =>
      if pattern.isPrefixOf (character :: rest) then
        replacement ++
          replaceCovered pattern replacement (pattern.length - 1) rest
      else
        character :: replaceCovered pattern replacement 0 rest

def replaceAll (pattern replacement text : String) : String :=
  String.ofList
    (replaceCovered pattern.toList replacement.toList 0 text.toList)

theorem replaceCovered_eq_drop (pattern replacement : List Char)
    (covered : Nat) (text : List Char) :
    replaceCovered pattern replacement covered text =
      replaceCovered pattern replacement 0 (text.drop covered) := by
  induction text generalizing covered with
  | nil => cases covered <;> rfl
  | cons character rest induction =>
      cases covered with
      | zero => rfl
      | succ covered => exact induction covered

theorem replaceCovered_append_of_not_mem {first : Char}
    {pattern replacement text : List Char} (absent : first ∉ text)
    (rest : List Char) :
    replaceCovered (first :: pattern) replacement 0 (text ++ rest) =
      text ++ replaceCovered (first :: pattern) replacement 0 rest := by
  induction text with
  | nil => rfl
  | cons character text induction =>
      have absentLater : first ∉ text :=
        fun member => absent (List.mem_cons_of_mem character member)
      have other : (first == character) = false :=
        beq_eq_false_iff_ne.mpr (List.ne_of_not_mem_cons absent)
      have noMatch :
          (first :: pattern).isPrefixOf (character :: (text ++ rest)) = false := by
        rw [List.isPrefixOf_cons_cons, other, Bool.false_and]
      rw [List.cons_append, replaceCovered, noMatch,
        if_neg Bool.false_ne_true, induction absentLater, List.cons_append]

theorem replaceCovered_pattern_append {pattern : List Char}
    (nonempty : pattern ≠ []) (replacement rest : List Char) :
    replaceCovered pattern replacement 0 (pattern ++ rest) =
      replacement ++ replaceCovered pattern replacement 0 rest := by
  cases pattern with
  | nil => exact absurd rfl nonempty
  | cons first pattern =>
      have isMatch :
          (first :: pattern).isPrefixOf (first :: (pattern ++ rest)) = true :=
        List.isPrefixOf_iff_prefix.mpr ⟨rest, rfl⟩
      have covered : (first :: pattern).length - 1 = pattern.length := by
        rw [List.length_cons, Nat.add_sub_cancel]
      rw [List.cons_append, replaceCovered, if_pos isMatch, covered,
        replaceCovered_eq_drop, List.drop_left]

end FieldCheck.Text
