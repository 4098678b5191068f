import Mathlib.Computability.Language

/-!
# Patterns and their languages

A pattern is a syntax tree of the regular expressions that the theory uses:
single characters of a class, sequences, alternatives and repetitions with
bounds.  Its language is the set of the texts that it matches as a whole.  The
lemmas below read off the languages of repeated classes and of parts with dots
between them.
-/

namespace FieldCheck

inductive Pattern where
  | one (accepts : Char → Bool)
  | sequence (first second : Pattern)
  | either (left right : Pattern)
  | repeated (least : Nat) (most? : Option Nat) (body : Pattern)

namespace Pattern

def Within (least : Nat) (most? : Option Nat) (count : Nat) : Prop :=
  least ≤ count ∧ ∀ most, most? = some most → count ≤ most

/-- The texts that a pattern matches as a whole. -/
def language : Pattern → Language Char
  | one accepts =>
      {text | ∃ character, accepts character = true ∧ text = [character]}
  | sequence first second => first.language * second.language
  | either left right => left.language + right.language
  | repeated least most? body =>
      {text | ∃ count, Within least most? count ∧
        text ∈ body.language ^ count}

def literal (character : Char) : Pattern :=
  one (· == character)

/-- Parts with dots between them, one or more. -/
def dotted (part : Pattern) : Pattern :=
  sequence part (repeated 0 none (sequence (literal '.') part))

section Membership

variable {accepts : Char → Bool} {text : List Char} {character : Char}
  {first second left right body part : Pattern} {least count : Nat}
  {most? : Option Nat}

theorem mem_one_iff :
    text ∈ (one accepts).language ↔
      ∃ character, accepts character = true ∧ text = [character] :=
  Iff.rfl

theorem mem_sequence_iff :
    text ∈ (sequence first second).language ↔
      ∃ front ∈ first.language, ∃ back ∈ second.language,
        front ++ back = text :=
  Language.mem_mul

theorem mem_either_iff :
    text ∈ (either left right).language ↔
      text ∈ left.language ∨ text ∈ right.language :=
  Iff.rfl

theorem mem_repeated_iff :
    text ∈ (repeated least most? body).language ↔
      ∃ pieces, text = List.flatten pieces ∧
        Within least most? pieces.length ∧
        ∀ piece ∈ pieces, piece ∈ body.language := by
  constructor
  · intro member
    obtain ⟨count, within, power⟩ := member
    obtain ⟨pieces, equal, rfl, inBody⟩ := Language.mem_pow.mp power
    exact ⟨pieces, equal, within, inBody⟩
  · intro described
    obtain ⟨pieces, equal, within, inBody⟩ := described
    exact ⟨pieces.length, within,
      Language.mem_pow.mpr ⟨pieces, equal, rfl, inBody⟩⟩

theorem mem_literal_iff :
    text ∈ (literal character).language ↔ text = [character] := by
  simp [literal, mem_one_iff]

theorem mem_literal_sequence_iff :
    text ∈ (sequence (literal character) second).language ↔
      ∃ back ∈ second.language, text = character :: back := by
  simp [mem_sequence_iff, mem_literal_iff, eq_comm]

theorem mem_sequence_literal_iff :
    text ∈ (sequence first (literal character)).language ↔
      ∃ front ∈ first.language, text = front ++ [character] := by
  simp [mem_sequence_iff, mem_literal_iff, eq_comm]

theorem mem_sequence_literal_sequence_iff :
    text ∈ (sequence first (sequence (literal character) second)).language ↔
      ∃ front ∈ first.language, ∃ back ∈ second.language,
        text = front ++ character :: back := by
  simp [mem_sequence_iff, mem_literal_iff, eq_comm]

theorem mem_one_pow_iff :
    text ∈ (one accepts).language ^ count ↔
      text.length = count ∧
        ∀ character ∈ text, accepts character = true := by
  induction count generalizing text with
  | zero =>
      rw [pow_zero, Language.mem_one, List.length_eq_zero_iff]
      constructor
      · intro empty
        simp [empty]
      · exact And.left
  | succ count induction =>
      rw [pow_succ', Language.mem_mul]
      constructor
      · intro member
        obtain ⟨front, single, back, power, rfl⟩ := member
        obtain ⟨character, accepted, rfl⟩ := single
        obtain ⟨length, all⟩ := induction.mp power
        exact ⟨by simp [length], List.forall_mem_cons.mpr ⟨accepted, all⟩⟩
      · intro described
        obtain ⟨length, all⟩ := described
        cases text with
        | nil => simp at length
        | cons character rest =>
            obtain ⟨accepted, restAll⟩ := List.forall_mem_cons.mp all
            have restLength : rest.length = count := by simpa using length
            exact ⟨[character], ⟨character, accepted, rfl⟩, rest,
              induction.mpr ⟨restLength, restAll⟩, rfl⟩

/-- A repeated class matches by the number and the kind of characters. -/
theorem mem_repeated_one_iff :
    text ∈ (repeated least most? (one accepts)).language ↔
      Within least most? text.length ∧
        ∀ character ∈ text, accepts character = true := by
  constructor
  · intro member
    obtain ⟨count, within, power⟩ := member
    obtain ⟨rfl, all⟩ := mem_one_pow_iff.mp power
    exact ⟨within, all⟩
  · intro described
    obtain ⟨within, all⟩ := described
    exact ⟨text.length, within, mem_one_pow_iff.mpr ⟨rfl, all⟩⟩

/-- When the matches of a pattern are the images of certain parts, its repeated
matches are the images of lists of such parts in a row. -/
theorem mem_repeated_iff_of_shape {shape : List Char → List Char}
    {good : List Char → Prop}
    (shaped : ∀ piece, piece ∈ body.language ↔
      ∃ part, good part ∧ piece = shape part) :
    text ∈ (repeated least most? body).language ↔
      ∃ parts, text = List.flatMap shape parts ∧
        Within least most? parts.length ∧ ∀ part ∈ parts, good part := by
  rw [mem_repeated_iff]
  constructor
  · intro described
    obtain ⟨pieces, rfl, within, inBody⟩ := described
    have shapes : ∃ parts, pieces = List.map shape parts ∧
        ∀ part ∈ parts, good part := by
      clear within
      induction pieces with
      | nil => exact ⟨[], rfl, by simp⟩
      | cons piece rest induction =>
          obtain ⟨pieceIn, restIn⟩ := List.forall_mem_cons.mp inBody
          obtain ⟨part, isGood, rfl⟩ := (shaped piece).mp pieceIn
          obtain ⟨parts, rfl, areGood⟩ := induction restIn
          exact ⟨part :: parts, rfl, List.forall_mem_cons.mpr ⟨isGood, areGood⟩⟩
    obtain ⟨parts, rfl, areGood⟩ := shapes
    rw [List.length_map] at within
    exact ⟨parts, List.flatMap_def.symm, within, areGood⟩
  · intro described
    obtain ⟨parts, rfl, within, areGood⟩ := described
    refine ⟨parts.map shape, List.flatMap_def, ?_, ?_⟩
    · rw [List.length_map]
      exact within
    · intro piece member
      obtain ⟨part, partMember, rfl⟩ := List.mem_map.mp member
      exact (shaped _).mpr ⟨part, areGood part partMember, rfl⟩

end Membership

end Pattern

section Parts

variable {separator : Char} {text : List Char} {parts : List (List Char)}

theorem not_mem_of_mem_splitOn {part : List Char}
    (member : part ∈ text.splitOn separator) : separator ∉ part := by
  induction text generalizing part with
  | nil =>
      rw [List.splitOn_nil, List.mem_singleton] at member
      simp [member]
  | cons character rest induction =>
      rw [List.splitOn_cons_eq_if_modifyHead] at member
      by_cases same : character = separator
      · simp only [same, beq_self_eq_true, if_true, List.mem_cons] at member
        rcases member with rfl | inRest
        · simp
        · exact induction inRest
      · rw [if_neg (by simpa using same)] at member
        cases split : rest.splitOn separator with
        | nil => exact absurd split (List.splitOn_ne_nil separator rest)
        | cons first others =>
            rw [split, List.modifyHead_cons, List.mem_cons] at member
            rcases member with rfl | inRest
            · have absent : separator ∉ first :=
                induction (by simp [split])
              simp [absent, Ne.symm same]
            · exact induction (by simp [split, inRest])

theorem length_splitOn :
    (text.splitOn separator).length = text.count separator + 1 := by
  induction text with
  | nil => rfl
  | cons character rest induction =>
      rw [List.splitOn_cons_eq_if_modifyHead, List.count_cons]
      by_cases same : (character == separator) = true
      · rw [if_pos same, if_pos same, List.length_cons, induction]
      · rw [if_neg same, if_neg same, List.length_modifyHead, induction]

/-- A text falls into given parts at a separator exactly when it is these parts
with separators between them and none of them holds a separator. -/
theorem splitOn_eq_iff :
    text.splitOn separator = parts ↔
      parts ≠ [] ∧ (∀ part ∈ parts, separator ∉ part) ∧
        text = [separator].intercalate parts := by
  constructor
  · intro equal
    subst equal
    exact ⟨List.splitOn_ne_nil separator text,
      fun _ member => not_mem_of_mem_splitOn member,
      (List.intercalate_splitOn separator).symm⟩
  · intro described
    obtain ⟨nonempty, absent, rfl⟩ := described
    exact List.splitOn_intercalate separator absent nonempty

theorem intercalate_cons (first : List Char) (others : List (List Char)) :
    [separator].intercalate (first :: others) =
      first ++ others.flatMap (fun part => separator :: part) := by
  induction others generalizing first with
  | nil => simp
  | cons second others induction =>
      rw [List.intercalate_cons_cons, induction]
      simp

theorem intercalate_concat (front : List (List Char)) (last : List Char) :
    [separator].intercalate (front ++ [last]) =
      front.flatMap (fun part => part ++ [separator]) ++ last := by
  induction front with
  | nil => simp
  | cons first front induction =>
      have nonempty : front ++ [last] ≠ [] := by simp
      rw [List.cons_append, List.intercalate_cons_of_ne_nil nonempty,
        induction]
      simp

theorem exists_mem_splitOn {character : Char} (member : character ∈ text)
    (different : character ≠ separator) :
    ∃ part ∈ text.splitOn separator, character ∈ part := by
  obtain ⟨first, others, split⟩ :=
    List.exists_cons_of_ne_nil (List.splitOn_ne_nil separator text)
  obtain ⟨_, _, equal⟩ := splitOn_eq_iff.mp split
  rw [equal, intercalate_cons, List.mem_append, List.mem_flatMap] at member
  rw [split]
  rcases member with inFirst | inOthers
  · exact ⟨first, List.mem_cons_self, inFirst⟩
  · obtain ⟨part, isOther, inPart⟩ := inOthers
    rcases List.mem_cons.mp inPart with same | inside
    · exact absurd same different
    · exact ⟨part, List.mem_cons_of_mem first isOther, inside⟩

end Parts

namespace Pattern

section Dots

variable {text : List Char} {body label top : Pattern}

theorem mem_dotted_iff (dotless : ∀ part ∈ body.language, '.' ∉ part) :
    text ∈ (dotted body).language ↔
      ∀ part ∈ text.splitOn '.', part ∈ body.language := by
  have others : ∀ back,
      back ∈ (repeated 0 none (sequence (literal '.') body)).language ↔
        ∃ parts, back = List.flatMap (fun part => '.' :: part) parts ∧
          Within 0 none parts.length ∧ ∀ part ∈ parts, part ∈ body.language :=
    fun _ => mem_repeated_iff_of_shape (fun _ => mem_literal_sequence_iff)
  unfold dotted
  simp only [mem_sequence_iff, others]
  constructor
  · intro described
    obtain ⟨first, firstIn, _, ⟨parts, rfl, _, partsIn⟩, rfl⟩ := described
    have allIn : ∀ part ∈ first :: parts, part ∈ body.language :=
      List.forall_mem_cons.mpr ⟨firstIn, partsIn⟩
    have split : (first ++ parts.flatMap (fun part => '.' :: part)).splitOn
        '.' = first :: parts :=
      splitOn_eq_iff.mpr ⟨List.cons_ne_nil first parts,
        fun part member => dotless part (allIn part member),
        (intercalate_cons first parts).symm⟩
    rw [split]
    exact allIn
  · intro allIn
    obtain ⟨first, parts, split⟩ :=
      List.exists_cons_of_ne_nil (List.splitOn_ne_nil '.' text)
    obtain ⟨_, _, equal⟩ := splitOn_eq_iff.mp split
    rw [split] at allIn
    obtain ⟨firstIn, partsIn⟩ := List.forall_mem_cons.mp allIn
    refine ⟨first, firstIn, _, ⟨parts, rfl, ?_, partsIn⟩, ?_⟩
    · exact ⟨Nat.zero_le _, by simp⟩
    · rw [equal, intercalate_cons]

/-- Labels with a dot behind each of them, one or more, and a last label. -/
theorem mem_dotEnded_sequence_iff
    (labelDotless : ∀ part ∈ label.language, '.' ∉ part)
    (topDotless : ∀ part ∈ top.language, '.' ∉ part) :
    text ∈ (sequence (repeated 1 none (sequence label (literal '.')))
        top).language ↔
      ∃ labels last, text.splitOn '.' = labels ++ [last] ∧ labels ≠ [] ∧
        (∀ part ∈ labels, part ∈ label.language) ∧
        last ∈ top.language := by
  have front : ∀ front,
      front ∈ (repeated 1 none (sequence label (literal '.'))).language ↔
        ∃ labels, front = List.flatMap (fun part => part ++ ['.']) labels ∧
          Within 1 none labels.length ∧
          ∀ part ∈ labels, part ∈ label.language :=
    fun _ => mem_repeated_iff_of_shape (fun _ => mem_sequence_literal_iff)
  simp only [mem_sequence_iff, front]
  constructor
  · intro described
    obtain ⟨_, ⟨labels, rfl, within, labelsIn⟩, last, lastIn, rfl⟩ := described
    have nonempty : labels ≠ [] := List.ne_nil_of_length_pos within.1
    refine ⟨labels, last, splitOn_eq_iff.mpr ⟨by simp, ?_, ?_⟩, nonempty,
      labelsIn, lastIn⟩
    · intro part member
      rcases List.mem_append.mp member with inLabels | isLast
      · exact labelDotless part (labelsIn part inLabels)
      · rw [List.mem_singleton.mp isLast]
        exact topDotless last lastIn
    · rw [intercalate_concat]
  · intro described
    obtain ⟨labels, last, split, nonempty, labelsIn, lastIn⟩ := described
    obtain ⟨_, _, equal⟩ := splitOn_eq_iff.mp split
    refine ⟨_, ⟨labels, rfl, ?_, labelsIn⟩, last, lastIn, ?_⟩
    · exact ⟨List.length_pos_iff.mpr nonempty, by simp⟩
    · rw [equal, intercalate_concat]

end Dots

end Pattern

end FieldCheck
