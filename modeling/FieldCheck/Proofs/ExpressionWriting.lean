import FieldCheck.Proofs.PatternLanguage
import FieldCheck.Proofs.TokenGrammar

/-!
# Writing rule expressions

`Expression.Writes` describes every way in which rules can be written in an
expression: in order, with commas between them, blanks around each of them, and
pieces among them that are no rules of the class at hand.  Reading gives back
the rules that exist for the class and loses nothing of their bounds.  The
description misses no expression, since every expression is a writing of the
rules that are read from it.
-/

namespace FieldCheck

namespace Text

/-- A text with blanks and nothing else around it. -/
def Padded (text padded : List Char) : Prop :=
  ∃ before after, padded = before ++ (text ++ after) ∧
    (∀ character ∈ before, isBlank character = true) ∧
    (∀ character ∈ after, isBlank character = true)

theorem padded_self (text : List Char) : Padded text text :=
  ⟨[], [], by simp, by simp, by simp⟩

theorem trimmed_of_padded {text padded : List Char}
    (isPadded : Padded text padded) : trimmed padded = trimmed text := by
  obtain ⟨before, after, rfl, beforeBlank, afterBlank⟩ := isPadded
  unfold trimmed
  rw [List.dropWhile_append_of_pos beforeBlank, List.dropWhile_append]
  by_cases left : (text.dropWhile isBlank).isEmpty = true
  · rw [if_pos left, List.dropWhile_eq_nil_iff.mpr afterBlank,
      List.isEmpty_iff.mp left]
  · rw [if_neg left, List.reverse_append,
      List.dropWhile_append_of_pos (by simpa using afterBlank)]

/-- Padding brings in nothing but blanks. -/
theorem mem_iff_of_padded {text padded : List Char}
    (isPadded : Padded text padded) {character : Char}
    (notBlank : isBlank character = false) :
    character ∈ padded ↔ character ∈ text := by
  obtain ⟨before, after, rfl, beforeBlank, afterBlank⟩ := isPadded
  have notBefore : character ∉ before := by
    intro member
    simp [beforeBlank character member] at notBlank
  have notAfter : character ∉ after := by
    intro member
    simp [afterBlank character member] at notBlank
  simp [notBefore, notAfter]

theorem trimmed_of_no_blank {text : List Char}
    (noBlank : ∀ character ∈ text, isBlank character = false) :
    trimmed text = text := by
  have kept : ∀ characters : List Char,
      (∀ character ∈ characters, isBlank character = false) →
        characters.dropWhile isBlank = characters := by
    intro characters none
    cases characters with
    | nil => rfl
    | cons first rest =>
        rw [List.dropWhile_cons_of_neg (by simp [none])]
  unfold trimmed
  rw [kept text noBlank, kept text.reverse (by simpa using noBlank),
    List.reverse_reverse]

/-- Only blanks are lost by trimming. -/
theorem padded_trimmed (text : List Char) : Padded (trimmed text) text := by
  let after := ((text.dropWhile isBlank).reverse.takeWhile isBlank).reverse
  have restored : trimmed text ++ after = text.dropWhile isBlank := by
    unfold trimmed
    rw [← List.reverse_append, List.takeWhile_append_dropWhile,
      List.reverse_reverse]
  refine ⟨text.takeWhile isBlank, after, ?_, ?_, ?_⟩
  · rw [restored, List.takeWhile_append_dropWhile]
  · intro character member
    exact List.mem_takeWhile_imp member
  · intro character member
    exact List.mem_takeWhile_imp (List.mem_reverse.mp member)

end Text

namespace Expression

open Text

/-- The rules that exist for a class: all of them for texts, and three of them
for whole numbers. -/
def known : ValueClass → Rule → Bool
  | .text, _ => true
  | .integer, .required | .integer, .min _ | .integer, .max _ => true
  | .integer, .alpha | .integer, .email | .integer, .len _ => false

/-- Pieces in which rules are written one after the other.  A rule of any class
may be written; the other pieces hold no comma and are no rules of the class. -/
inductive Lists (valueClass : ValueClass) :
    List Rule → List (List Char) → Prop where
  | nil : Lists valueClass [] []
  | rule {rule : Rule} {token : String} {literal? : Option String}
      {piece : List Char} {stated : List Rule} {pieces : List (List Char)}
      (spelled : rule.Spelled token literal?)
      (padded : Padded token.toList piece)
      (rest : Lists valueClass stated pieces) :
      Lists valueClass (rule :: stated) (piece :: pieces)
  | foreign {piece : List Char} {stated : List Rule}
      {pieces : List (List Char)}
      (noComma : ',' ∉ piece)
      (unread : valueClass.rule? (String.ofList (trimmed piece)) = none)
      (rest : Lists valueClass stated pieces) :
      Lists valueClass stated (piece :: pieces)

/-- An expression in which rules are written. -/
def Writes (valueClass : ValueClass) (stated : List Rule)
    (expression : String) : Prop :=
  ∃ pieces, Lists valueClass stated pieces ∧
    expression = String.ofList ([','].intercalate pieces)

section Writing

variable {valueClass : ValueClass} {rule : Rule} {stated : List Rule}
  {piece : List Char} {pieces : List (List Char)} {expression : String}

theorem mem_vocabulary_iff_known :
    rule.name ∈ valueClass.vocabulary ↔ known valueClass rule = true := by
  cases valueClass <;> cases rule <;>
    simp [known, Rule.name, ValueClass.vocabulary]

theorem rule?_write :
    valueClass.rule? rule.write =
      if known valueClass rule = true then some rule else none := by
  by_cases isKnown : known valueClass rule = true
  · rw [if_pos isKnown]
    apply ValueClass.rule?_eq_some_iff.mpr
    exact ⟨mem_vocabulary_iff_known.mpr isKnown, rfl⟩
  · rw [if_neg isKnown, Option.eq_none_iff_forall_ne_some]
    intro other read
    obtain ⟨member, equal⟩ := ValueClass.rule?_eq_some_iff.mp read
    rw [← Rule.write_injective equal, mem_vocabulary_iff_known] at member
    exact isKnown member

theorem trimmed_of_padded_write (padded : Padded rule.write.toList piece) :
    String.ofList (trimmed piece) = rule.write := by
  have noBlank : ∀ character ∈ rule.write.toList,
      Text.isBlank character = false :=
    fun _ member => (Rule.not_blank_of_mem_write member).1
  rw [trimmed_of_padded padded, trimmed_of_no_blank noBlank,
    String.ofList_toList]

theorem not_mem_comma_of_padded_write
    (padded : Padded rule.write.toList piece) : ',' ∉ piece := by
  rw [mem_iff_of_padded padded (by decide)]
  intro member
  exact (Rule.not_blank_of_mem_write member).2 rfl

theorem Lists.not_mem_comma (lists : Lists valueClass stated pieces)
    (member : piece ∈ pieces) : ',' ∉ piece := by
  induction lists with
  | nil => simp at member
  | rule spelled padded rest induction =>
      rw [spelled.eq_write] at padded
      rcases List.mem_cons.mp member with rfl | inRest
      · exact not_mem_comma_of_padded_write padded
      · exact induction inRest
  | foreign noComma unread rest induction =>
      rcases List.mem_cons.mp member with rfl | inRest
      · exact noComma
      · exact induction inRest

theorem Lists.read (lists : Lists valueClass stated pieces) :
    (pieces.map (fun piece => String.ofList (trimmed piece))).filterMap
        valueClass.rule? =
      stated.filter (known valueClass) := by
  induction lists with
  | nil => rfl
  | @rule rule token literal? piece stated pieces spelled padded rest
      induction =>
      rw [spelled.eq_write] at padded
      rw [List.map_cons, trimmed_of_padded_write padded]
      by_cases isKnown : known valueClass rule = true
      · have read := rule?_write.trans (if_pos isKnown)
        rw [List.filterMap_cons_some read, List.filter_cons_of_pos isKnown,
          induction]
      · have unread := rule?_write.trans (if_neg isKnown)
        rw [List.filterMap_cons_none unread, List.filter_cons_of_neg isKnown,
          induction]
  | foreign noComma unread rest induction =>
      rw [List.map_cons, List.filterMap_cons_none unread, induction]

theorem tokens_intercalate (nonempty : pieces ≠ [])
    (noComma : ∀ piece ∈ pieces, ',' ∉ piece) :
    tokens (String.ofList ([','].intercalate pieces)) =
      pieces.map (fun piece => String.ofList (trimmed piece)) := by
  unfold tokens
  rw [String.toList_ofList, List.splitOn_intercalate ',' noComma nonempty]

theorem rules_of_writes (writes : Writes valueClass stated expression) :
    rules valueClass expression = stated.filter (known valueClass) := by
  obtain ⟨pieces, lists, rfl⟩ := writes
  cases pieces with
  | nil =>
      cases lists
      exact rules_of_isBlank rfl valueClass
  | cons piece pieces =>
      have nonempty : piece :: pieces ≠ [] := List.cons_ne_nil piece pieces
      unfold rules
      rw [tokens_intercalate nonempty (fun _ => lists.not_mem_comma),
        lists.read]

theorem lists_read (noComma : ∀ piece ∈ pieces, ',' ∉ piece) :
    Lists valueClass
      ((pieces.map (fun piece => String.ofList (trimmed piece))).filterMap
        valueClass.rule?) pieces := by
  induction pieces with
  | nil => exact .nil
  | cons piece pieces induction =>
      obtain ⟨pieceNoComma, restNoComma⟩ := List.forall_mem_cons.mp noComma
      rw [List.map_cons]
      cases read : valueClass.rule? (String.ofList (trimmed piece)) with
      | none =>
          rw [List.filterMap_cons_none read]
          exact .foreign pieceNoComma read (induction restNoComma)
      | some rule =>
          rw [List.filterMap_cons_some read]
          obtain ⟨_, written⟩ := ValueClass.rule?_eq_some_iff.mp read
          have padded : Padded rule.write.toList piece := by
            rw [← written, String.toList_ofList]
            exact padded_trimmed piece
          exact .rule rule.spelled_write padded (induction restNoComma)

/-- Every expression is a writing of the rules that are read from it. -/
theorem writes_rules :
    Writes valueClass (rules valueClass expression) expression := by
  refine ⟨expression.toList.splitOn ',', ?_, ?_⟩
  · unfold rules tokens
    exact lists_read (fun _ => not_mem_of_mem_splitOn)
  · rw [List.intercalate_splitOn, String.ofList_toList]

end Writing

/-- What is read from an expression.  The rules that are written in it are read
in their order and with their digits as written, less those that do not exist
for the class; and no expression is anything but a writing of such rules. -/
theorem rules_of_written_expression (valueClass : ValueClass)
    (expression : String) :
    (∀ stated, Writes valueClass stated expression →
      (tokens expression).filterMap valueClass.rule? =
        stated.filter (known valueClass)) ∧
    Writes valueClass ((tokens expression).filterMap valueClass.rule?)
      expression :=
  ⟨fun _ => rules_of_writes, writes_rules⟩

/-- Two of four written rules exist for whole numbers; blanks of several kinds,
an empty piece and an unknown word stand among them. -/
theorem rules_of_written_expression_integer :
    let five : Numeral := ⟨['5'], by simp, by simp⟩
    let seven : Numeral := ⟨['0', '0', '7'], by simp, by simp⟩
    let expression := "alpha,, \u3000min=007\t,len=5 , Required!,\nrequired"
    Writes .integer [.alpha, .min seven, .len five, .required] expression ∧
      (tokens expression).filterMap ValueClass.integer.rule? =
        [.min seven, .required] := by
  intro five seven expression
  have alpha : Padded "alpha".toList "alpha".toList :=
    ⟨[], [], by decide, by simp, by simp⟩
  have min : Padded ("min=" ++ seven.text).toList
      " \u3000min=007\t".toList :=
    ⟨[' ', '\u3000'], ['\t'], by decide, by simp [Text.isBlank],
      by simp [Text.isBlank]⟩
  have len : Padded ("len=" ++ five.text).toList "len=5 ".toList :=
    ⟨[], [' '], by decide, by simp, by simp [Text.isBlank]⟩
  have required : Padded "required".toList "\nrequired".toList :=
    ⟨['\n'], [], by decide, by simp [Text.isBlank], by simp⟩
  have lists : Lists .integer [.alpha, .min seven, .len five, .required]
      ["alpha".toList, [], " \u3000min=007\t".toList, "len=5 ".toList,
        " Required!".toList, "\nrequired".toList] :=
    .rule .alpha alpha (.foreign (by decide) (by decide)
      (.rule (.min seven) min (.rule (.len five) len
        (.foreign (by decide) (by decide)
          (.rule .required required .nil)))))
  have writes : Writes .integer [.alpha, .min seven, .len five, .required]
      expression :=
    ⟨_, lists, by decide⟩
  exact ⟨writes, (rules_of_written_expression .integer expression).1 _ writes⟩

end Expression

end FieldCheck
