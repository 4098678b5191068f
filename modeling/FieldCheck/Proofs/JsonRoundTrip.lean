import FieldCheck.Json.Reader
import FieldCheck.Json.Writer

/-!
# Reading back what is written

A JSON value that holds no number is read back from its written form, whatever
follows it.  For a text this goes character by character: each one is written
in such a way that it is read as one piece.
-/

namespace FieldCheck.Json

mutual

/-- Whether no number stands anywhere in a value. -/
def isNumberFree : Json → Bool
  | .number _ => false
  | .list items => itemsNumberFree items
  | .object members => membersNumberFree members
  | .null | .flag _ | .text _ => true

def itemsNumberFree : List Json → Bool
  | [] => true
  | item :: items => item.isNumberFree && itemsNumberFree items

def membersNumberFree : List (Option String × Json) → Bool
  | [] => true
  | (_, value) :: members => value.isNumberFree && membersNumberFree members

end

theorem isNumberFree_ofMembers {members : List (String × Json)} :
    (ofMembers members).isNumberFree = true ↔
      ∀ member ∈ members, member.2.isNumberFree = true := by
  show membersNumberFree _ = true ↔ _
  induction members with
  | nil => simp [membersNumberFree]
  | cons member members induction =>
      rw [List.map_cons, membersNumberFree, Bool.and_eq_true, induction,
        List.forall_mem_cons]

section Texts

variable {character : Char} {rest : List Char}

theorem hexValue?_hexDigit {digit : Nat} (small : digit < 16) :
    hexValue? (hexDigit digit) = some digit := by
  decide +revert

theorem hexValue4?_hexDigit {code : Nat} (small : code < 0x100) :
    hexValue4? '0' '0' (hexDigit (code / 16)) (hexDigit (code % 16)) =
      some code := by
  have high : code / 16 < 16 := by omega
  have low : code % 16 < 16 := by omega
  have zero : hexValue? '0' = some 0 := rfl
  simp only [hexValue4?, zero, hexValue?_hexDigit high, hexValue?_hexDigit low,
    Option.bind_eq_bind, Option.bind_some, Option.pure_def, Option.some.injEq]
  omega

theorem joinPieces_unit_cons {code : Nat}
    (notHigh : isHighSurrogate code = false)
    (notLow : isLowSurrogate code = false) (pieces : List Piece) :
    joinPieces (.unit code :: pieces) =
      (joinPieces pieces).map (Char.ofNat code :: ·) := by
  cases pieces with
  | nil => simp [joinPieces, notHigh, notLow]
  | cons piece pieces =>
      cases piece <;> simp [joinPieces, notHigh, notLow]

/-- A piece stands for a character that is written as given. -/
structure Denotes (piece : Piece) (written : List Char) (character : Char) :
    Prop where
  read : ∀ rest, readPieces (written ++ rest) =
    (readPieces rest).map (fun read => (piece :: read.1, read.2))
  joined : ∀ pieces, joinPieces (piece :: pieces) =
    (joinPieces pieces).map (character :: ·)

theorem denotes_letter {letter : Char} (escape : escape? letter = some character)
    (notUnit : letter ≠ 'u') :
    Denotes (.plain character) ['\\', letter] character where
  read rest := by
    rw [List.cons_append, List.cons_append, List.nil_append, readPieces]
    · simp only [escape]
      cases readPieces rest <;> rfl
    · intro _ _ _ _ _ isUnit
      exact absurd isUnit notUnit
  joined _ := rfl

theorem denotes_self (notQuote : character ≠ '"') (notSlash : character ≠ '\\')
    (printed : ¬ character.toNat < 0x20) :
    Denotes (.plain character) [character] character where
  read rest := by
    rw [List.cons_append, List.nil_append, readPieces]
    · simp only [beq_eq_false_iff_ne.mpr notSlash, printed, decide_false,
        Bool.or_false, Bool.false_eq_true, if_false]
      cases readPieces rest <;> rfl
    · exact notQuote
    · intro _ _ _ _ _ isSlash
      exact absurd isSlash notSlash
    · intro _ _ isSlash
      exact absurd isSlash notSlash
  joined _ := rfl

theorem denotes_code (control : character.toNat < 0x20) :
    Denotes (.unit character.toNat)
      ['\\', 'u', '0', '0', hexDigit (character.toNat / 16),
        hexDigit (character.toNat % 16)] character where
  read rest := by
    simp only [List.cons_append, List.nil_append, readPieces]
    rw [hexValue4?_hexDigit (by omega)]
    cases readPieces rest <;> rfl
  joined pieces := by
    have notHigh : isHighSurrogate character.toNat = false := by
      simp only [isHighSurrogate, Bool.and_eq_false_iff, decide_eq_false_iff_not]
      omega
    have notLow : isLowSurrogate character.toNat = false := by
      simp only [isLowSurrogate, Bool.and_eq_false_iff, decide_eq_false_iff_not]
      omega
    rw [joinPieces_unit_cons notHigh notLow, Char.ofNat_toNat]

/-- How a character is written: as a letter behind a backslash, by its code
when it is another control character, or as it is. -/
inductive Spelled (character : Char) : List Char → Prop where
  | letter {letter : Char} (escape : escape? letter = some character)
      (notUnit : letter ≠ 'u') (printed : 0x20 ≤ letter.toNat) :
      Spelled character ['\\', letter]
  | code (control : character.toNat < 0x20) :
      Spelled character
        ['\\', 'u', '0', '0', hexDigit (character.toNat / 16),
          hexDigit (character.toNat % 16)]
  | self (notQuote : character ≠ '"') (notSlash : character ≠ '\\')
      (printed : ¬ character.toNat < 0x20) : Spelled character [character]

theorem spelled_escaped (character : Char) :
    Spelled character (escaped character) := by
  by_cases quote : character = '"'
  · subst quote
    exact .letter rfl (by decide) (by decide)
  · by_cases slash : character = '\\'
    · subst slash
      exact .letter rfl (by decide) (by decide)
    · unfold escaped
      split
      any_goals exact .letter rfl (by decide) (by decide)
      by_cases control : character.toNat < 0x20
      · rw [if_pos control]
        exact .code control
      · rw [if_neg control]
        exact .self quote slash control

theorem exists_denotes_escaped (character : Char) :
    ∃ piece, Denotes piece (escaped character) character := by
  have spelled := spelled_escaped character
  generalize escaped character = written at spelled ⊢
  cases spelled with
  | letter escape notUnit _ => exact ⟨_, denotes_letter escape notUnit⟩
  | code control => exact ⟨_, denotes_code control⟩
  | self notQuote notSlash printed =>
      exact ⟨_, denotes_self notQuote notSlash printed⟩

theorem readPieces_flatMap_escaped (content : List Char) (rest : List Char) :
    ∃ pieces, readPieces (content.flatMap escaped ++ '"' :: rest) =
        some (pieces, rest) ∧ joinPieces pieces = some content := by
  induction content with
  | nil => exact ⟨[], rfl, rfl⟩
  | cons character content induction =>
      obtain ⟨pieces, read, joined⟩ := induction
      obtain ⟨piece, denotes⟩ := exists_denotes_escaped character
      refine ⟨piece :: pieces, ?_, ?_⟩
      · rw [List.flatMap_cons, List.append_assoc, denotes.read, read]
        rfl
      · rw [denotes.joined, joined]
        rfl

theorem exists_quoted?_eq_cons (content? : Option String) :
    ∃ written, quoted? content? = '"' :: written ∧
      ∀ rest, readText (written ++ rest) = some (content?, rest) := by
  cases content? with
  | none => exact ⟨"\\ud800\"".toList, rfl, fun _ => rfl⟩
  | some content =>
      refine ⟨content.toList.flatMap escaped ++ ['"'], rfl, ?_⟩
      intro rest
      obtain ⟨pieces, read, joined⟩ :=
        readPieces_flatMap_escaped content.toList rest
      rw [List.append_assoc, List.singleton_append, readText, read]
      simp [joined]

end Texts

section Values

/-- The written form of a value begins with a character that is no blank and
that closes no list. -/
theorem exists_characters_eq_cons {json : Json}
    (free : json.isNumberFree = true) :
    ∃ first written, json.characters = first :: written ∧
      isSpace first = false ∧ first ≠ ']' := by
  cases json with
  | null => exact ⟨_, _, rfl, rfl, by decide⟩
  | flag truth => cases truth <;> exact ⟨_, _, rfl, rfl, by decide⟩
  | number literal => contradiction
  | text content? =>
      obtain ⟨written, equal, _⟩ := exists_quoted?_eq_cons content?
      exact ⟨'"', written, equal, rfl, by decide⟩
  | list items => exact ⟨_, _, rfl, rfl, by decide⟩
  | object members => exact ⟨_, _, rfl, rfl, by decide⟩

theorem length_characters_pos {json : Json} (free : json.isNumberFree = true) :
    0 < json.characters.length := by
  obtain ⟨first, written, equal, _⟩ := exists_characters_eq_cons free
  simp [equal]

theorem skipSpace_cons {first : Char} (ink : isSpace first = false)
    (rest : List Char) : skipSpace (first :: rest) = first :: rest :=
  List.dropWhile_cons_of_neg (by simp [ink])

theorem readValue_list {steps : Nat} {first : Char} {source : List Char}
    (ink : isSpace first = false) (open_ : first ≠ ']') :
    readValue (steps + 1) ('[' :: first :: source) =
      (readItems steps (first :: source)).map
        (fun read => (.list read.1, read.2)) := by
  rw [readValue, skipSpace_cons (by decide)]
  simp only [skipSpace_cons ink]
  split <;> simp_all

theorem readValue_object {steps : Nat} {source : List Char} :
    readValue (steps + 1) ('\x7b' :: '"' :: source) =
      (readMembers steps ('"' :: source)).map
        (fun read => (.object read.1, read.2)) := by
  rw [readValue, skipSpace_cons (by decide)]
  simp only [skipSpace_cons (show isSpace '"' = false by decide)]
  rfl

section Steps

variable {steps : Nat} {source between rest : List Char} {item value : Json}
  {name : Option String}

theorem readItems_last
    (read : readValue steps source = some (item, ']' :: rest)) :
    readItems (steps + 1) source = some ([item], rest) := by
  rw [readItems, read]
  rfl

theorem readItems_next
    (read : readValue steps source = some (item, ',' :: rest)) :
    readItems (steps + 1) source =
      (readItems steps rest).map (fun read => (item :: read.1, read.2)) := by
  rw [readItems, read]
  simp only [Option.bind_eq_bind, Option.bind_some,
    skipSpace_cons (show isSpace ',' = false by decide)]
  cases readItems steps rest <;> rfl

theorem readMembers_last
    (named : readText source = some (name, ':' :: between))
    (read : readValue steps between = some (value, '\x7d' :: rest)) :
    readMembers (steps + 1) ('"' :: source) = some ([(name, value)], rest) := by
  rw [readMembers, skipSpace_cons (by decide)]
  simp only [named, Option.bind_eq_bind, Option.bind_some, read,
    skipSpace_cons (show isSpace ':' = false by decide)]
  rfl

theorem readMembers_next
    (named : readText source = some (name, ':' :: between))
    (read : readValue steps between = some (value, ',' :: rest)) :
    readMembers (steps + 1) ('"' :: source) =
      (readMembers steps rest).map
        (fun read => ((name, value) :: read.1, read.2)) := by
  rw [readMembers, skipSpace_cons (by decide)]
  simp only [named, Option.bind_eq_bind, Option.bind_some, read,
    skipSpace_cons (show isSpace ':' = false by decide),
    skipSpace_cons (show isSpace ',' = false by decide)]
  cases readMembers steps rest <;> rfl

end Steps

theorem separated_cons {more : List (List Char)} (others : more ≠ [])
    (first : List Char) :
    separated (first :: more) = first ++ ',' :: separated more := by
  cases more with
  | nil => contradiction
  | cons second more => rfl

theorem itemCharacters_ne_nil {items : List Json} (some : items ≠ []) :
    itemCharacters items ≠ [] := by
  cases items with
  | nil => contradiction
  | cons item items => simp [itemCharacters]

theorem memberCharacters_ne_nil {members : List (Option String × Json)}
    (some : members ≠ []) : memberCharacters members ≠ [] := by
  cases members with
  | nil => contradiction
  | cons member members => simp [memberCharacters]

theorem exists_separated_eq_cons (first : Char) (written : List Char)
    (more : List (List Char)) :
    ∃ continued, separated ((first :: written) :: more) = first :: continued := by
  cases more with
  | nil => exact ⟨written, rfl⟩
  | cons second more => exact ⟨written ++ ',' :: separated (second :: more), rfl⟩

theorem exists_items_eq_cons {items : List Json} (some : items ≠ [])
    (free : itemsNumberFree items = true) :
    ∃ first continued, separated (itemCharacters items) = first :: continued ∧
      isSpace first = false ∧ first ≠ ']' := by
  cases items with
  | nil => contradiction
  | cons item others =>
      obtain ⟨first, written, equal, ink, notClosing⟩ :=
        exists_characters_eq_cons (Bool.and_eq_true_iff.mp free).1
      obtain ⟨continued, begins⟩ :=
        exists_separated_eq_cons first written (itemCharacters others)
      rw [itemCharacters, equal]
      exact ⟨first, continued, begins, ink, notClosing⟩

theorem exists_members_eq_cons {members : List (Option String × Json)}
    (some : members ≠ []) :
    ∃ continued, separated (memberCharacters members) = '"' :: continued := by
  cases members with
  | nil => contradiction
  | cons member others =>
      obtain ⟨name, value⟩ := member
      obtain ⟨written, equal, _⟩ := exists_quoted?_eq_cons name
      rw [memberCharacters, equal]
      exact exists_separated_eq_cons '"' _ _

end Values

mutual

/-- A value without numbers is read from its written form.  A step for each
character is enough. -/
theorem readValue_characters (json : Json) (free : json.isNumberFree = true)
    (steps : Nat) (rest : List Char)
    (enough : json.characters.length ≤ steps) :
    readValue steps (json.characters ++ rest) = some (json, rest) := by
  obtain ⟨steps, rfl⟩ := Nat.exists_eq_add_one.mpr
    (Nat.lt_of_lt_of_le (length_characters_pos free) enough)
  cases json with
  | null => rfl
  | flag truth => cases truth <;> rfl
  | number literal => contradiction
  | text content? =>
      obtain ⟨written, equal, read⟩ := exists_quoted?_eq_cons content?
      simp only [characters, equal, List.cons_append, readValue,
        skipSpace_cons (show isSpace '"' = false by decide), read, Option.map_some]
  | list items =>
      by_cases none : items = []
      · subst none
        rfl
      · have read := readItems_separated items none free steps rest (by
          simp only [characters, List.length_cons, List.length_append]
            at enough
          omega)
        obtain ⟨first, continued, equal, ink, notClosing⟩ :=
          exists_items_eq_cons none free
        simp only [characters, List.cons_append, List.append_assoc,
          List.nil_append]
        rw [equal, List.cons_append] at read ⊢
        rw [readValue_list ink notClosing, read]
        rfl
  | object members =>
      by_cases none : members = []
      · subst none
        rfl
      · have read := readMembers_separated members none free steps rest (by
          simp only [characters, List.length_cons, List.length_append]
            at enough
          omega)
        obtain ⟨continued, equal⟩ := exists_members_eq_cons none
        simp only [characters, List.cons_append, List.append_assoc,
          List.nil_append]
        rw [equal, List.cons_append] at read ⊢
        rw [readValue_object, read]
        rfl

theorem readItems_separated (items : List Json) (some : items ≠ [])
    (free : itemsNumberFree items = true) (steps : Nat) (rest : List Char)
    (enough : (separated (itemCharacters items)).length < steps) :
    readItems steps (separated (itemCharacters items) ++ ']' :: rest) =
      .some (items, rest) := by
  obtain ⟨steps, rfl⟩ := Nat.exists_eq_add_one.mpr (Nat.zero_lt_of_lt enough)
  cases items with
  | nil => contradiction
  | cons item others =>
      obtain ⟨itemFree, othersFree⟩ := Bool.and_eq_true_iff.mp free
      by_cases last : others = []
      · subst last
        simp only [itemCharacters, separated] at enough ⊢
        exact readItems_last
          (readValue_characters item itemFree steps _ (by omega))
      · rw [itemCharacters, separated_cons (itemCharacters_ne_nil last)]
          at enough ⊢
        rw [List.length_append, List.length_cons] at enough
        have readFirst := readValue_characters item itemFree steps
          (',' :: (separated (itemCharacters others) ++ ']' :: rest))
          (by omega)
        have readOthers := readItems_separated others last othersFree steps
          rest (by omega)
        rw [List.append_assoc, List.cons_append, readItems_next readFirst,
          readOthers]
        rfl

theorem readMembers_separated (members : List (Option String × Json))
    (some : members ≠ []) (free : membersNumberFree members = true)
    (steps : Nat) (rest : List Char)
    (enough : (separated (memberCharacters members)).length < steps) :
    readMembers steps
        (separated (memberCharacters members) ++ '\x7d' :: rest) =
      .some (members, rest) := by
  obtain ⟨steps, rfl⟩ := Nat.exists_eq_add_one.mpr (Nat.zero_lt_of_lt enough)
  cases members with
  | nil => contradiction
  | cons member others =>
      obtain ⟨name, value⟩ := member
      obtain ⟨valueFree, othersFree⟩ := Bool.and_eq_true_iff.mp free
      obtain ⟨written, equal, named⟩ := exists_quoted?_eq_cons name
      by_cases last : others = []
      · subst last
        simp only [memberCharacters, separated, equal, List.length_append,
          List.length_cons] at enough
        have read := readValue_characters value valueFree steps
          ('\x7d' :: rest) (by omega)
        simp only [memberCharacters, separated, equal, List.cons_append,
          List.append_assoc]
        exact readMembers_last (named _) read
      · rw [memberCharacters, separated_cons (memberCharacters_ne_nil last),
          equal] at enough ⊢
        simp only [List.length_append, List.length_cons] at enough
        have readFirst := readValue_characters value valueFree steps
          (',' :: (separated (memberCharacters others) ++ '\x7d' :: rest))
          (by omega)
        have readOthers := readMembers_separated others last othersFree steps
          rest (by omega)
        simp only [List.cons_append, List.append_assoc]
        rw [readMembers_next (named _) readFirst, readOthers]
        rfl

end

theorem read?_write {json : Json} (free : json.isNumberFree = true) :
    read? json.write = some json := by
  have read : readValue (json.write.length + 1) json.write.toList =
      some (json, []) := by
    rw [write, String.toList_ofList, ← List.append_nil json.characters]
    exact readValue_characters json free _ [] (by simp)
  simp [read?, read, skipSpace]

end FieldCheck.Json
