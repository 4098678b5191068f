import FieldCheck.Proofs.PatternLanguage
import FieldCheck.Proofs.TokenGrammar

/-!
# The patterns of rule tokens

A class of values has a table of regular expressions, one for each name of its
vocabulary, and a token is a rule when one of them matches it as a whole.  The
reader of tokens agrees with the table and with a grammar in which a token is a
word alone, or a word, `=` and digits.  No token is matched by two patterns of
a table, so the order of the table does not matter, and a rule that is read
holds everything that was written.
-/

namespace FieldCheck

namespace Pattern

def nothing : Pattern :=
  repeated 0 (some 0) (one (fun _ => true))

def word : List Char → Pattern
  | [] => nothing
  | character :: rest => sequence (literal character) (word rest)

theorem mem_word_iff {letters text : List Char} :
    text ∈ (word letters).language ↔ text = letters := by
  induction letters generalizing text with
  | nil =>
      rw [word, nothing, mem_repeated_one_iff, ← List.length_eq_zero_iff]
      simp [Within]
  | cons character rest induction =>
      rw [word, mem_literal_sequence_iff]
      simp only [induction, exists_eq_left]

end Pattern

namespace Rule

theorem exists_bound_iff {rule : Rule} :
    (∃ bound, rule.bound? = some bound) ↔
      rule.name = .len ∨ rule.name = .min ∨ rule.name = .max := by
  cases rule <;> simp [bound?, name]

theorem length_parts_eq_two_iff {rule : Rule} :
    rule.parts.length = 2 ↔
      rule.name = .len ∨ rule.name = .min ∨ rule.name = .max := by
  rw [← exists_bound_iff, parts, literal?]
  cases rule.bound? <;> simp

end Rule

namespace RuleName

def plainPattern (word : String) : Pattern :=
  .word word.toList

def boundedPattern (word : String) : Pattern :=
  .sequence (.word word.toList)
    (.sequence (.literal '=') (.repeated 1 none (.one Char.isDigit)))

/-- The regular expression of the rules of a name. -/
def pattern : RuleName → Pattern
  | .required => plainPattern "required"
  | .alpha => plainPattern "alpha"
  | .email => plainPattern "email"
  | .len => boundedPattern "len"
  | .min => boundedPattern "min"
  | .max => boundedPattern "max"

section Matches

variable {word token : String} {rule : Rule}

theorem mem_plainPattern_iff :
    token.toList ∈ (plainPattern word).language ↔ token = word := by
  rw [plainPattern, Pattern.mem_word_iff, String.toList_inj]

theorem mem_boundedPattern_iff :
    token.toList ∈ (boundedPattern word).language ↔
      ∃ digits : String, digits ≠ "" ∧
        (∀ digit ∈ digits.toList, digit.isDigit = true) ∧
        token = word ++ "=" ++ digits := by
  unfold boundedPattern
  simp only [Pattern.mem_sequence_literal_sequence_iff, Pattern.mem_word_iff,
    exists_eq_left, Pattern.mem_repeated_one_iff]
  constructor
  · intro described
    obtain ⟨digits, ⟨within, decimal⟩, written⟩ := described
    have nonempty : digits ≠ [] := List.ne_nil_of_length_pos within.1
    refine ⟨String.ofList digits, by simpa using nonempty,
      by simpa using decimal, ?_⟩
    apply String.toList_inj.mp
    simpa using written
  · intro described
    obtain ⟨digits, nonempty, decimal, rfl⟩ := described
    have long : 1 ≤ digits.toList.length :=
      List.length_pos_iff.mpr (by simpa using nonempty)
    exact ⟨digits.toList, ⟨⟨long, by simp⟩, decimal⟩, by simp⟩

theorem exists_boundAfter?_iff :
    (∃ bound, boundAfter? word token = some bound) ↔
      token.toList ∈ (boundedPattern word).language := by
  simp only [boundAfter?_eq_some_iff, mem_boundedPattern_iff]
  constructor
  · intro described
    obtain ⟨bound, written⟩ := described
    refine ⟨bound.text, ?_, ?_, ?_⟩
    · simpa [Numeral.text] using bound.nonempty
    · simpa [Numeral.text] using bound.decimal
    · apply String.toList_inj.mp
      simpa [Numeral.text] using written
  · intro described
    obtain ⟨digits, nonempty, decimal, rfl⟩ := described
    exact ⟨⟨digits.toList, by simpa using nonempty, decimal⟩, by simp⟩

theorem exists_read?_iff {name : RuleName} :
    (∃ rule, name.read? token = some rule) ↔
      token.toList ∈ name.pattern.language := by
  cases name with
  | required | alpha | email =>
      rw [pattern, mem_plainPattern_iff, read?, text, ← Option.isSome_iff_exists]
      simp
  | len | min | max =>
      rw [pattern, ← exists_boundAfter?_iff]
      simp [read?, text, Option.map_eq_some_iff]

/-- No token is matched by the patterns of two names. -/
theorem eq_of_mem_patterns {left right : RuleName}
    (byLeft : token.toList ∈ left.pattern.language)
    (byRight : token.toList ∈ right.pattern.language) : left = right := by
  obtain ⟨leftRule, leftRead⟩ := exists_read?_iff.mpr byLeft
  obtain ⟨rightRule, rightRead⟩ := exists_read?_iff.mpr byRight
  obtain ⟨rfl, leftWritten⟩ := read?_eq_some_iff.mp leftRead
  obtain ⟨rfl, rightWritten⟩ := read?_eq_some_iff.mp rightRead
  have same : leftRule = rightRule :=
    Rule.write_injective (leftWritten.symm.trans rightWritten)
  rw [same]

end Matches

end RuleName

namespace ValueClass

/-- The table of the regular expressions of a class, in their order. -/
def patterns (valueClass : ValueClass) : List Pattern :=
  valueClass.vocabulary.map RuleName.pattern

/-- The words that are tokens of a class by themselves. -/
def plainWords : ValueClass → List String
  | .text => ["required", "alpha", "email"]
  | .integer => ["required"]

def boundedWords : ValueClass → List String
  | .text => ["len", "min", "max"]
  | .integer => ["min", "max"]

/-- The tokens that are rules of a class: a word alone, or a word, `=` and one
or more ASCII digits, with nothing before or behind. -/
inductive Grammar (valueClass : ValueClass) : String → Prop where
  | plain {word : String} (known : word ∈ valueClass.plainWords) :
      Grammar valueClass word
  | bounded {word digits : String}
      (known : word ∈ valueClass.boundedWords) (nonempty : digits ≠ "")
      (decimal : ∀ digit ∈ digits.toList, digit.isDigit = true) :
      Grammar valueClass (word ++ "=" ++ digits)

section Tables

variable {valueClass : ValueClass} {token : String} {rule : Rule}

theorem patterns_eq :
    valueClass.patterns =
      valueClass.plainWords.map RuleName.plainPattern ++
        valueClass.boundedWords.map RuleName.boundedPattern := by
  cases valueClass <;> rfl

/-- The patterns of the table match the tokens of the grammar. -/
theorem exists_mem_patterns_iff :
    (∃ pattern ∈ valueClass.patterns, token.toList ∈ pattern.language) ↔
      valueClass.Grammar token := by
  rw [patterns_eq]
  constructor
  · intro described
    obtain ⟨pattern, member, isMatch⟩ := described
    rcases List.mem_append.mp member with isPlain | isBounded
    · obtain ⟨word, known, rfl⟩ := List.mem_map.mp isPlain
      obtain rfl := RuleName.mem_plainPattern_iff.mp isMatch
      exact .plain known
    · obtain ⟨word, known, rfl⟩ := List.mem_map.mp isBounded
      obtain ⟨digits, nonempty, decimal, rfl⟩ :=
        RuleName.mem_boundedPattern_iff.mp isMatch
      exact .bounded known nonempty decimal
  · intro grammar
    cases grammar with
    | plain known =>
        exact ⟨_, List.mem_append_left _ (List.mem_map_of_mem known),
          RuleName.mem_plainPattern_iff.mpr rfl⟩
    | bounded known nonempty decimal =>
        exact ⟨_, List.mem_append_right _ (List.mem_map_of_mem known),
          RuleName.mem_boundedPattern_iff.mpr ⟨_, nonempty, decimal, rfl⟩⟩

theorem exists_rule?_iff_patterns :
    (∃ rule, valueClass.rule? token = some rule) ↔
      ∃ pattern ∈ valueClass.patterns, token.toList ∈ pattern.language := by
  unfold rule? patterns
  rw [← Option.isSome_iff_exists, List.findSome?_isSome_iff]
  simp only [Option.isSome_iff_exists, RuleName.exists_read?_iff,
    List.mem_map, exists_exists_and_eq_and]

theorem findSome?_read?_of_perm {table : List RuleName}
    (permuted : table.Perm valueClass.vocabulary) :
    table.findSome? (·.read? token) = valueClass.rule? token := by
  apply Option.ext
  intro rule
  rw [RuleName.findSome?_read?_eq_some_iff, rule?_eq_some_iff,
    permuted.mem_iff]

theorem vocabulary_integer_subset {name : RuleName}
    (known : name ∈ ValueClass.integer.vocabulary) :
    name ∈ ValueClass.text.vocabulary := by
  cases name <;> simp_all [vocabulary]

end Tables

/-- What a class reads.  A token is a rule exactly when it is of the grammar of
the class, and exactly when a pattern of its table matches it.  The parts of a
rule give the token back, the first of them is the name, and there is a second
one for three names.  No two patterns of the table match one token, so in any
other order the table gives the same result; and what is a rule for whole
numbers is the same rule for texts. -/
theorem rule_of_token (valueClass : ValueClass) (token : String) :
    ((∃ rule, valueClass.rule? token = some rule) ↔
      valueClass.Grammar token) ∧
    ((∃ rule, valueClass.rule? token = some rule) ↔
      ∃ pattern ∈ valueClass.patterns, token.toList ∈ pattern.language) ∧
    (∀ rule, valueClass.rule? token = some rule →
      "=".intercalate rule.parts = token ∧
      rule.parts.head? = some rule.name.text ∧
      (rule.parts.length = 2 ↔
        rule.name = .len ∨ rule.name = .min ∨ rule.name = .max)) ∧
    (∀ left ∈ valueClass.vocabulary, ∀ right ∈ valueClass.vocabulary,
      token.toList ∈ left.pattern.language →
      token.toList ∈ right.pattern.language → left = right) ∧
    (∀ table : List RuleName, table.Perm valueClass.vocabulary →
      table.findSome? (·.read? token) = valueClass.rule? token) ∧
    (∀ rule, ValueClass.integer.rule? token = some rule →
      ValueClass.text.rule? token = some rule) := by
  refine ⟨exists_rule?_iff_patterns.trans exists_mem_patterns_iff,
    exists_rule?_iff_patterns, ?_,
    fun _ _ _ _ => RuleName.eq_of_mem_patterns,
    fun _ => findSome?_read?_of_perm, ?_⟩
  · intro rule read
    obtain ⟨_, written⟩ := rule?_eq_some_iff.mp read
    exact ⟨written.symm, rfl, Rule.length_parts_eq_two_iff⟩
  · intro rule read
    obtain ⟨known, written⟩ := rule?_eq_some_iff.mp read
    exact rule?_eq_some_iff.mpr ⟨vocabulary_integer_subset known, written⟩

/-- Zeros in front of a bound are kept, and the last name of the table may as
well be tried first. -/
theorem rule_of_token_max :
    let seven : Numeral := ⟨['0', '0', '7'], by simp, by simp⟩
    let rule : Rule := .max seven
    ValueClass.integer.rule? "max=007" = some rule ∧
      ValueClass.integer.Grammar "max=007" ∧
      "=".intercalate rule.parts = "max=007" ∧
      rule.parts.length = 2 ∧
      [RuleName.max, .required, .min].findSome? (·.read? "max=007") =
        ValueClass.integer.rule? "max=007" ∧
      ValueClass.text.rule? "max=007" = some rule := by
  intro seven rule
  have read : ValueClass.integer.rule? "max=007" = some rule := by decide
  have permuted :
      [RuleName.max, .required, .min].Perm ValueClass.integer.vocabulary := by
    decide
  obtain ⟨grammar, _, parts, _, ofTable, ofText⟩ :=
    rule_of_token .integer "max=007"
  obtain ⟨joined, _, two⟩ := parts rule read
  exact ⟨read, grammar.mp ⟨rule, read⟩, joined,
    two.mpr (.inr (.inr rfl)), ofTable _ permuted, ofText rule read⟩

/-- A sign, a line feed at the end, digits of another script, a second `=` and
blanks make a token unknown. -/
example :
    ∀ token ∈ ["max=+7", "max=7\n", "max=\u0663", "max=7=7", "max = 7",
      " required", "Required", "max="],
      ValueClass.text.rule? token = none := by
  decide

end ValueClass

end FieldCheck
