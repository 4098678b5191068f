import FieldCheck.Binding.Arguments

/-!
# Listed arguments

`Lexeme.Lists` is the grammar of arguments in brackets: words with texts, and
commas between them or also at the end.  A sequence of lexemes is listed without
a flaw, and with names and values of this form, when the grammar derives it.
-/

namespace FieldCheck.Binding

namespace Argument

/-- An argument with a single word for its name and a text for its value. -/
structure IsPlain (argument : Argument) : Prop where
  named : ':' ∉ argument.name.toList
  given : ∃ content, argument.value = .text content

end Argument

namespace Lexeme

inductive Lists : List Lexeme → List Argument → Prop where
  | nil : Lists [] []
  | last (name content : String) :
      Lists [.word name, .equals, .text content] [⟨name, .text content⟩]
  | cons (name content : String) {rest : List Lexeme}
      {arguments : List Argument} (lists : Lists rest arguments) :
      Lists (.word name :: .equals :: .text content :: .comma :: rest)
        (⟨name, .text content⟩ :: arguments)

section Reading

variable {source rest : List Lexeme} {name full : String} {argument : Argument}
  {arguments : List Argument} {steps : Nat}

/-- A name of several words holds a colon. -/
theorem readSegments_eq_ok
    (read : readSegments name source = .ok (full, rest)) :
    (full = name ∧ rest = source) ∨ ':' ∈ full.toList := by
  induction name, source using readSegments.induct with
  | case1 name segment later induction =>
      rw [readSegments] at read
      rcases induction read with ⟨rfl, _⟩ | colon
      · exact .inr (by simp)
      · exact .inr colon
  | case2 name later notWord =>
      rw [readSegments] at read
      · contradiction
      · exact notWord
  | case3 name source notColons notWord =>
      rw [readSegments] at read
      · cases read
        exact .inl ⟨rfl, rfl⟩
      · exact notColons
      · exact notWord

theorem readName_eq_ok (read : readName source = .ok (name, rest))
    (single : ':' ∉ name.toList) : source = .word name :: rest := by
  cases source with
  | nil => contradiction
  | cons first later =>
      cases first with
      | word spelling =>
          rcases readSegments_eq_ok read with ⟨rfl, rfl⟩ | colon
          · rfl
          · exact absurd colon single
      | colons =>
          cases later with
          | nil => contradiction
          | cons second later =>
              cases second with
              | word spelling =>
                  rcases readSegments_eq_ok read with ⟨rfl, _⟩ | colon
                  · simp at single
                  · exact absurd colon single
              | text _ | literal | colons | equals | comma | other =>
                  contradiction
      | text _ | literal | equals | comma | other => contradiction

theorem readValue_eq_text {content : String}
    (value : (readValue source).1 = .text content) :
    source = .equals :: .text content :: (readValue source).2 := by
  cases source with
  | nil => contradiction
  | cons first later =>
      cases first with
      | equals =>
          cases later with
          | nil => contradiction
          | cons second later =>
              cases second with
              | text other =>
                  cases value
                  rfl
              | word _ | literal | colons | equals | comma | other =>
                  contradiction
      | text _ | literal | word _ | colons | comma | other => contradiction

theorem readArgument_eq_ok (read : readArgument source = .ok (argument, rest))
    (plain : argument.IsPlain) :
    ∃ content, argument.value = .text content ∧
      source = .word argument.name :: .equals :: .text content :: rest := by
  unfold readArgument at read
  cases named : readName source with
  | error flaw =>
      rw [named] at read
      contradiction
  | ok result =>
      obtain ⟨name, later⟩ := result
      rw [named] at read
      cases read
      obtain ⟨single, content, given⟩ := plain
      refine ⟨content, given, ?_⟩
      rw [readName_eq_ok named single, ← readValue_eq_text given]

theorem readListing_last (read : readArgument source = .ok (argument, [])) :
    readListing (steps + 1) source = ⟨[argument], none⟩ := by
  cases source with
  | nil => contradiction
  | cons first later => simp [readListing, read]

theorem readListing_comma
    (read : readArgument source = .ok (argument, .comma :: rest)) :
    readListing (steps + 1) source =
      ⟨argument :: (readListing steps rest).arguments,
        (readListing steps rest).flaw?⟩ := by
  cases source with
  | nil => contradiction
  | cons first later => simp [readListing, read]

theorem readListing_flawless
    (flawless : (readListing (steps + 1) source).flaw? = none) :
    source = [] ∨ (∃ argument, readArgument source = .ok (argument, [])) ∨
      ∃ argument rest, readArgument source = .ok (argument, .comma :: rest) := by
  cases source with
  | nil => exact .inl rfl
  | cons first later =>
      cases read : readArgument (first :: later) with
      | error flaw => simp [readListing, read] at flawless
      | ok result =>
          obtain ⟨argument, rest⟩ := result
          cases rest with
          | nil => exact .inr (.inl ⟨argument, rfl⟩)
          | cons next rest =>
              cases next with
              | comma => exact .inr (.inr ⟨argument, rest, rfl⟩)
              | text _ | literal | word _ | colons | equals | other =>
                  simp [readListing, read] at flawless

/-- What is listed without a flaw is derived, if its arguments are plain. -/
theorem lists_readListing (enough : source.length ≤ steps)
    (plain : ∀ argument ∈ (readListing steps source).arguments,
      argument.IsPlain)
    (flawless : (readListing steps source).flaw? = none) :
    Lists source (readListing steps source).arguments := by
  induction steps generalizing source with
  | zero =>
      obtain rfl := List.length_eq_zero_iff.mp (Nat.le_zero.mp enough)
      exact .nil
  | succ steps induction =>
      rcases readListing_flawless flawless with
        rfl | ⟨argument, read⟩ | ⟨argument, rest, read⟩
      · exact .nil
      · rw [readListing_last read] at plain ⊢
        have isPlain := plain argument (List.mem_singleton_self argument)
        obtain ⟨content, given, rfl⟩ := readArgument_eq_ok read isPlain
        obtain ⟨name, value⟩ := argument
        obtain rfl : value = .text content := given
        exact .last name content
      · rw [readListing_comma read] at plain flawless ⊢
        obtain ⟨isPlain, restPlain⟩ := List.forall_mem_cons.mp plain
        obtain ⟨content, given, rfl⟩ := readArgument_eq_ok read isPlain
        obtain ⟨name, value⟩ := argument
        obtain rfl : value = .text content := given
        exact .cons name content
          (induction (by simp at enough; omega) restPlain flawless)

theorem readListing_of_lists (lists : Lists source arguments)
    (enough : source.length ≤ steps) :
    readListing steps source = ⟨arguments, none⟩ := by
  induction lists generalizing steps with
  | nil => cases steps <;> rfl
  | last name content =>
      obtain ⟨steps, rfl⟩ := Nat.exists_eq_add_one.mpr
        (Nat.lt_of_lt_of_le (by simp) enough)
      rfl
  | @cons name content rest arguments lists induction =>
      obtain ⟨steps, rfl⟩ := Nat.exists_eq_add_one.mpr
        (Nat.lt_of_lt_of_le (by simp) enough)
      have read : readArgument
          (.word name :: .equals :: .text content :: .comma :: rest) =
            .ok (⟨name, .text content⟩, .comma :: rest) :=
        rfl
      rw [readListing_comma read, induction (by simp at enough; omega)]

theorem listing_of_lists (lists : Lists source arguments) :
    listing source = ⟨arguments, none⟩ :=
  readListing_of_lists lists (Nat.le_refl _)

theorem lists_listing
    (plain : ∀ argument ∈ (listing source).arguments, argument.IsPlain)
    (flawless : (listing source).flaw? = none) :
    Lists source (listing source).arguments :=
  lists_readListing (Nat.le_refl _) plain flawless

end Reading

theorem alone?_eq_some_iff {lexemes : List Lexeme} {content : String} :
    alone? lexemes = some content ↔ lexemes = [.text content] := by
  constructor
  · intro alone
    unfold alone? at alone
    split at alone <;> simp_all
  · rintro rfl
    rfl

section Writing

variable {arguments others : List Argument}

/-- Arguments are never a text alone. -/
theorem alone?_of_lists {lexemes : List Lexeme}
    (lists : Lists lexemes arguments) : alone? lexemes = none := by
  cases lists <;> rfl

theorem alone?_writtenAll (arguments : List Argument) :
    alone? (Argument.writtenAll arguments) = none := by
  cases arguments with
  | nil => rfl
  | cons first rest =>
      obtain ⟨name, value⟩ := first
      cases rest <;> cases value <;> rfl

theorem lists_writtenAll_iff :
    Lists (Argument.writtenAll arguments) others ↔
      others = arguments ∧
        ∀ argument ∈ arguments, ∃ content, argument.value = .text content := by
  induction arguments using Argument.writtenAll.induct generalizing others with
  | case1 =>
      constructor
      · intro lists
        cases lists
        exact ⟨rfl, List.forall_mem_nil _⟩
      · rintro ⟨rfl, _⟩
        exact .nil
  | case2 only =>
      obtain ⟨name, value⟩ := only
      constructor
      · intro lists
        cases value <;> cases lists
        simp
      · rintro ⟨rfl, given⟩
        obtain ⟨content, rfl⟩ := given _ (List.mem_singleton_self _)
        exact .last name content
  | case3 first rest several induction =>
      obtain ⟨name, value⟩ := first
      rw [Argument.writtenAll, List.forall_mem_cons]
      · constructor
        · intro lists
          cases value with
          | text content =>
              cases lists with
              | cons _ _ later =>
                  obtain ⟨rfl, given⟩ := induction.mp later
                  exact ⟨rfl, ⟨content, rfl⟩, given⟩
          | number | ended | missing => cases lists
        · rintro ⟨rfl, ⟨content, rfl⟩, given⟩
          exact .cons name content (induction.mpr ⟨rfl, given⟩)
      · exact several

end Writing

end Lexeme

def Arguments.Lists (given : Arguments) (arguments : List Argument) : Prop :=
  ∃ lexemes, given = .bracketed lexemes ∧ Lexeme.Lists lexemes arguments

theorem Arguments.lists_named_iff {arguments others : List Argument} :
    (Arguments.named arguments).Lists others ↔
      others = arguments ∧
        ∀ argument ∈ arguments, ∃ content, argument.value = .text content := by
  rw [← Lexeme.lists_writtenAll_iff]
  constructor
  · rintro ⟨lexemes, same, lists⟩
    obtain rfl := Arguments.bracketed.inj same
    exact lists
  · intro lists
    exact ⟨_, rfl, lists⟩

end FieldCheck.Binding
