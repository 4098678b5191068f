import FieldCheck.Constraint
import FieldCheck.Proofs.PatternLanguage

/-!
# The grammar of mail addresses

Mail addresses are described twice: by the regular expression that defines
them, and by what stands before and after their last `@`.  The recognizer, the
language of the expression and the description agree on every text.  No text
has two cuts whose parts the expression matches, since no domain holds an `@`.
-/

namespace FieldCheck.Text.Address

/-- The characters, besides white space, that do not stand in an atom. -/
def special : List Char :=
  ['<', '>', '(', ')', '[', ']', '\\', '.', ',', ';', ':', '@', '"']

def atomPattern : Pattern :=
  .repeated 1 none
    (.one (fun character => !special.contains character && !isBlank character))

def quotedPattern : Pattern :=
  .sequence (.literal '"')
    (.sequence (.repeated 1 none (.one (· != '\n'))) (.literal '"'))

def localPattern : Pattern :=
  .either (.dotted atomPattern) quotedPattern

def numberPattern : Pattern :=
  .repeated 1 (some 3) (.one Char.isDigit)

def literalPattern : Pattern :=
  .sequence (.literal '[')
    (.sequence numberPattern (.sequence (.literal '.')
      (.sequence numberPattern (.sequence (.literal '.')
        (.sequence numberPattern (.sequence (.literal '.')
          (.sequence numberPattern (.literal ']'))))))))

def labelPattern : Pattern :=
  .repeated 1 none (.one (fun character =>
    character.isAlpha || character == '-' || character.isDigit))

def topLabelPattern : Pattern :=
  .repeated 2 none (.one Char.isAlpha)

def hostPattern : Pattern :=
  .sequence (.repeated 1 none (.sequence labelPattern (.literal '.')))
    topLabelPattern

def domainPattern : Pattern :=
  .either literalPattern hostPattern

/-- The regular expression of mail addresses. -/
def pattern : Pattern :=
  .sequence localPattern (.sequence (.literal '@') domainPattern)

/-- An atom: not empty, and neither special characters nor white space. -/
def Atom (text : List Char) : Prop :=
  text ≠ [] ∧
    ∀ character ∈ text, character ∉ special ∧ isBlank character = false

/-- A text between quotes: not empty and without line feeds.  Further quotes
may stand in it. -/
def Quoted (text : List Char) : Prop :=
  ∃ inner, text = '"' :: (inner ++ ['"']) ∧ inner ≠ [] ∧ '\n' ∉ inner

/-- What may stand before the last `@`. -/
inductive LocalPart (text : List Char) : Prop where
  | atoms (valid : ∀ atom ∈ text.splitOn '.', Atom atom)
  | quoted (valid : Quoted text)

def ShortNumber (text : List Char) : Prop :=
  1 ≤ text.length ∧ text.length ≤ 3 ∧
    ∀ character ∈ text, character.isDigit = true

/-- Four short numbers with dots between them, in brackets. -/
def NumberGroup (text : List Char) : Prop :=
  ∃ inner, text = '[' :: (inner ++ [']']) ∧
    (inner.splitOn '.').length = 4 ∧
    ∀ number ∈ inner.splitOn '.', ShortNumber number

def Label (text : List Char) : Prop :=
  text ≠ [] ∧ ∀ character ∈ text,
    character.isAlpha = true ∨ character.isDigit = true ∨ character = '-'

/-- A last label: two letters or more. -/
def TopLabel (text : List Char) : Prop :=
  2 ≤ text.length ∧ ∀ character ∈ text, character.isAlpha = true

def Host (text : List Char) : Prop :=
  ∃ labels last, text.splitOn '.' = labels ++ [last] ∧ labels ≠ [] ∧
    (∀ label ∈ labels, Label label) ∧ TopLabel last

/-- What may stand after the last `@`. -/
inductive DomainPart (text : List Char) : Prop where
  | group (valid : NumberGroup text)
  | host (valid : Host text)

section Patterns

variable {text : List Char}

theorem localPart_iff :
    LocalPart text ↔ (∀ atom ∈ text.splitOn '.', Atom atom) ∨ Quoted text := by
  constructor
  · intro valid
    cases valid with
    | atoms valid => exact .inl valid
    | quoted valid => exact .inr valid
  · intro valid
    rcases valid with atoms | quoted
    · exact .atoms atoms
    · exact .quoted quoted

theorem domainPart_iff :
    DomainPart text ↔ NumberGroup text ∨ Host text := by
  constructor
  · intro valid
    cases valid with
    | group valid => exact .inl valid
    | host valid => exact .inr valid
  · intro valid
    rcases valid with group | host
    · exact .group group
    · exact .host host

theorem mem_atomPattern_iff :
    text ∈ atomPattern.language ↔ Atom text := by
  unfold atomPattern Atom
  rw [Pattern.mem_repeated_one_iff]
  simp [Pattern.Within, Nat.one_le_iff_ne_zero]

theorem mem_quotedPattern_iff :
    text ∈ quotedPattern.language ↔ Quoted text := by
  unfold quotedPattern Quoted
  simp only [Pattern.mem_literal_sequence_iff,
    Pattern.mem_sequence_literal_iff, Pattern.mem_repeated_one_iff]
  constructor
  · intro member
    obtain ⟨_, ⟨inner, ⟨within, all⟩, rfl⟩, rfl⟩ := member
    refine ⟨inner, rfl, List.ne_nil_of_length_pos within.1, ?_⟩
    intro lineFeed
    simpa using all '\n' lineFeed
  · intro described
    obtain ⟨inner, rfl, nonempty, noLineFeed⟩ := described
    refine ⟨_, ⟨inner, ⟨⟨List.length_pos_iff.mpr nonempty, by simp⟩, ?_⟩,
      rfl⟩, rfl⟩
    intro character member
    simp only [bne_iff_ne, ne_eq]
    intro same
    exact noLineFeed (same ▸ member)

theorem mem_numberPattern_iff :
    text ∈ numberPattern.language ↔ ShortNumber text := by
  unfold numberPattern ShortNumber
  rw [Pattern.mem_repeated_one_iff]
  simp [Pattern.Within, and_assoc]

theorem mem_labelPattern_iff :
    text ∈ labelPattern.language ↔ Label text := by
  unfold labelPattern Label
  rw [Pattern.mem_repeated_one_iff]
  simp [Pattern.Within, Nat.one_le_iff_ne_zero, or_comm, or_left_comm]

theorem mem_topLabelPattern_iff :
    text ∈ topLabelPattern.language ↔ TopLabel text := by
  unfold topLabelPattern TopLabel
  rw [Pattern.mem_repeated_one_iff]
  simp [Pattern.Within]

theorem Atom.dotless (atom : Atom text) : '.' ∉ text := by
  intro member
  exact (atom.2 '.' member).1 (by decide)

theorem ShortNumber.absent {character : Char} (number : ShortNumber text)
    (noDigit : character.isDigit = false) : character ∉ text := by
  intro member
  simpa [noDigit] using number.2.2 character member

theorem Label.absent {character : Char} (label : Label text)
    (foreign : ¬ (character.isAlpha = true ∨ character.isDigit = true ∨
      character = '-')) : character ∉ text :=
  fun member => foreign (label.2 character member)

theorem TopLabel.absent {character : Char} (top : TopLabel text)
    (noLetter : character.isAlpha = false) : character ∉ text := by
  intro member
  simpa [noLetter] using top.2 character member

theorem mem_localPattern_iff :
    text ∈ localPattern.language ↔ LocalPart text := by
  have dotless : ∀ part ∈ atomPattern.language, '.' ∉ part :=
    fun part member => (mem_atomPattern_iff.mp member).dotless
  unfold localPattern
  rw [Pattern.mem_either_iff, Pattern.mem_dotted_iff dotless,
    mem_quotedPattern_iff, localPart_iff]
  simp only [mem_atomPattern_iff]

theorem mem_literalPattern_iff :
    text ∈ literalPattern.language ↔ NumberGroup text := by
  unfold literalPattern NumberGroup
  simp only [Pattern.mem_literal_sequence_iff,
    Pattern.mem_sequence_literal_sequence_iff,
    Pattern.mem_sequence_literal_iff, mem_numberPattern_iff]
  constructor
  · intro member
    obtain ⟨_, ⟨first, firstIn, _, ⟨second, secondIn, _, ⟨third, thirdIn, _,
      ⟨fourth, fourthIn, rfl⟩, rfl⟩, rfl⟩, rfl⟩, rfl⟩ := member
    have allIn : ∀ number ∈ [first, second, third, fourth],
        ShortNumber number := by
      simp [firstIn, secondIn, thirdIn, fourthIn]
    have split : (['.'].intercalate [first, second, third, fourth]).splitOn
        '.' = [first, second, third, fourth] :=
      List.splitOn_intercalate '.'
        (fun number member => (allIn number member).absent (by decide))
        (by simp)
    refine ⟨['.'].intercalate [first, second, third, fourth], by simp, ?_, ?_⟩
    · rw [split]
      rfl
    · rw [split]
      exact allIn
  · intro described
    obtain ⟨inner, rfl, four, allIn⟩ := described
    obtain ⟨first, second, third, fourth, split⟩ :=
      List.length_eq_four.mp four
    obtain ⟨_, _, rfl⟩ := splitOn_eq_iff.mp split
    rw [split] at allIn
    simp only [List.forall_mem_cons] at allIn
    obtain ⟨firstIn, secondIn, thirdIn, fourthIn, _⟩ := allIn
    exact ⟨_, ⟨first, firstIn, _, ⟨second, secondIn, _, ⟨third, thirdIn, _,
      ⟨fourth, fourthIn, rfl⟩, rfl⟩, rfl⟩, rfl⟩, by simp⟩

theorem mem_hostPattern_iff :
    text ∈ hostPattern.language ↔ Host text := by
  have labelDotless : ∀ part ∈ labelPattern.language, '.' ∉ part :=
    fun part member => (mem_labelPattern_iff.mp member).absent (by decide)
  have topDotless : ∀ part ∈ topLabelPattern.language, '.' ∉ part :=
    fun part member => (mem_topLabelPattern_iff.mp member).absent (by decide)
  unfold hostPattern Host
  rw [Pattern.mem_dotEnded_sequence_iff labelDotless topDotless]
  simp only [mem_labelPattern_iff, mem_topLabelPattern_iff]

theorem mem_domainPattern_iff :
    text ∈ domainPattern.language ↔ DomainPart text := by
  unfold domainPattern
  rw [Pattern.mem_either_iff, mem_literalPattern_iff, mem_hostPattern_iff,
    domainPart_iff]

theorem mem_pattern_iff :
    text ∈ pattern.language ↔
      ∃ front ∈ localPattern.language, ∃ back ∈ domainPattern.language,
        text = front ++ '@' :: back :=
  Pattern.mem_sequence_literal_sequence_iff

/-- A domain holds no `@`: its brackets, dots, digits, letters and hyphens are
other characters. -/
theorem DomainPart.not_mem_at (domain : DomainPart text) : '@' ∉ text := by
  intro member
  cases domain with
  | group valid =>
      obtain ⟨inner, rfl, _, numbers⟩ := valid
      have inInner : '@' ∈ inner := by simpa using member
      have noDot : '@' ≠ '.' := by decide
      obtain ⟨number, isPart, inNumber⟩ := exists_mem_splitOn inInner noDot
      exact (numbers number isPart).absent (by decide) inNumber
  | host valid =>
      obtain ⟨labels, last, split, _, areLabels, isTop⟩ := valid
      have noDot : '@' ≠ '.' := by decide
      obtain ⟨part, isPart, inPart⟩ := exists_mem_splitOn member noDot
      rw [split, List.mem_append, List.mem_singleton] at isPart
      rcases isPart with isLabel | rfl
      · exact (areLabels part isLabel).absent (by decide) inPart
      · exact isTop.absent (by decide) inPart

end Patterns

section Recognizers

variable {text : List Char}

theorem isAtom_iff : isAtom text = true ↔ Atom text := by
  simp [isAtom, Atom, isAtomCharacter, special, and_comm]

theorem isShortNumber_iff : isShortNumber text = true ↔ ShortNumber text := by
  simp [isShortNumber, ShortNumber, Nat.one_le_iff_ne_zero, and_assoc]

theorem isLabel_iff : isLabel text = true ↔ Label text := by
  simp [isLabel, Label, or_assoc]

theorem isTopLabel_iff : isTopLabel text = true ↔ TopLabel text := by
  simp [isTopLabel, TopLabel]

theorem closed_iff {close : Char} {good : List Char → Bool} :
    (text.getLast? == some close && good text.dropLast) = true ↔
      ∃ inner, text = inner ++ [close] ∧ good inner = true := by
  rw [Bool.and_eq_true, beq_iff_eq, List.getLast?_eq_some_iff]
  constructor
  · intro closed
    obtain ⟨⟨inner, rfl⟩, isGood⟩ := closed
    rw [List.dropLast_concat] at isGood
    exact ⟨inner, rfl, isGood⟩
  · intro described
    obtain ⟨inner, rfl, isGood⟩ := described
    rw [List.dropLast_concat]
    exact ⟨⟨inner, rfl⟩, isGood⟩

theorem isQuoted_iff : isQuoted text = true ↔ Quoted text := by
  unfold Quoted
  cases text with
  | nil => simp [isQuoted]
  | cons character rest =>
      by_cases quote : character = '"'
      · subst quote
        have inside : isQuoted ('"' :: rest) = true ↔
            ∃ inner, rest = inner ++ ['"'] ∧
              (!inner.isEmpty && inner.all (· != '\n')) = true := by
          rw [← closed_iff]
          simp [isQuoted, Bool.and_assoc]
        rw [inside]
        simp only [List.cons.injEq, true_and]
        refine exists_congr (fun inner => and_congr_right (fun _ => ?_))
        simp [List.forall_mem_ne']
      · simp [isQuoted, quote]

theorem isLiteral_iff : isLiteral text = true ↔ NumberGroup text := by
  unfold NumberGroup
  cases text with
  | nil => simp [isLiteral]
  | cons character rest =>
      by_cases bracket : character = '['
      · subst bracket
        have inside : isLiteral ('[' :: rest) = true ↔
            ∃ inner, rest = inner ++ [']'] ∧ isNumberGroup inner = true :=
          closed_iff
        rw [inside]
        simp only [List.cons.injEq, true_and]
        refine exists_congr (fun inner => and_congr_right (fun _ => ?_))
        simp [isNumberGroup, isShortNumber_iff]
      · simp [isLiteral, bracket]

theorem isHost_iff : isHost text = true ↔ Host text := by
  unfold isHost Host
  obtain ⟨labels, last, split⟩ :
      ∃ labels last, text.splitOn '.' = labels ++ [last] :=
    (List.eq_nil_or_concat' (text.splitOn '.')).resolve_left
      (List.splitOn_ne_nil '.' text)
  have judged : (decide (2 ≤ (labels ++ [last]).length) &&
      (labels ++ [last]).dropLast.all isLabel &&
        (labels ++ [last]).getLast?.any isTopLabel) = true ↔
      labels ≠ [] ∧ (∀ label ∈ labels, Label label) ∧ TopLabel last := by
    simp [isLabel_iff, isTopLabel_iff, and_assoc, List.ne_nil_iff_length_pos,
      Nat.succ_le_iff]
  simp only [split]
  rw [judged]
  constructor
  · intro valid
    exact ⟨labels, last, rfl, valid⟩
  · intro described
    obtain ⟨others, otherLast, equal, valid⟩ := described
    obtain ⟨rfl, lastEqual⟩ := List.append_inj' equal rfl
    obtain rfl := List.singleton_inj.mp lastEqual
    exact valid

theorem isLocal_iff : isLocal text = true ↔ LocalPart text := by
  unfold isLocal
  rw [Bool.or_eq_true, isQuoted_iff, List.all_eq_true, localPart_iff]
  simp only [isAtom_iff]

theorem isDomain_iff : isDomain text = true ↔ DomainPart text := by
  unfold isDomain
  rw [Bool.or_eq_true, isLiteral_iff, isHost_iff, domainPart_iff]

theorem cut?_eq_none_iff : cut? text = none ↔ '@' ∉ text := by
  induction text with
  | nil => simp [cut?]
  | cons character rest induction =>
      rw [List.mem_cons, not_or, ← induction]
      cases found : cut? rest with
      | none => simp [cut?, found, eq_comm]
      | some parts => simp [cut?, found]

theorem cut?_eq_some_iff {front back : List Char} :
    cut? text = some (front, back) ↔
      text = front ++ '@' :: back ∧ '@' ∉ back := by
  induction text generalizing front with
  | nil => simp [cut?]
  | cons character rest induction =>
      cases found : cut? rest with
      | none =>
          have absent := cut?_eq_none_iff.mp found
          constructor
          · intro result
            by_cases here : character = '@'
            · simp only [cut?, found, if_pos here] at result
              cases result
              exact ⟨by simp [here], absent⟩
            · simp [cut?, found, here] at result
          · intro described
            obtain ⟨equal, _⟩ := described
            cases front with
            | nil =>
                obtain ⟨rfl, rfl⟩ := List.cons.inj equal
                simp [cut?, found]
            | cons first front =>
                obtain ⟨rfl, rfl⟩ := List.cons.inj equal
                simp at absent
      | some parts =>
          obtain ⟨restFront, restBack⟩ := parts
          constructor
          · intro result
            simp only [cut?, found] at result
            cases result
            obtain ⟨rfl, absent⟩ := induction.mp found
            exact ⟨rfl, absent⟩
          · intro described
            obtain ⟨equal, absent⟩ := described
            cases front with
            | nil =>
                obtain ⟨rfl, rfl⟩ := List.cons.inj equal
                rw [cut?_eq_none_iff.mpr absent] at found
                contradiction
            | cons first front =>
                obtain ⟨rfl, rfl⟩ := List.cons.inj equal
                have inRest := induction.mpr ⟨rfl, absent⟩
                simp only [cut?, inRest]

end Recognizers

theorem isAddress_iff {text : String} :
    isAddress text = true ↔
      ∃ front back, text.toList = front ++ '@' :: back ∧ '@' ∉ back ∧
        LocalPart front ∧ DomainPart back := by
  unfold isAddress
  rw [Option.any_eq_true]
  constructor
  · intro recognized
    obtain ⟨⟨front, back⟩, cut, valid⟩ := recognized
    obtain ⟨equal, absent⟩ := cut?_eq_some_iff.mp cut
    rw [Bool.and_eq_true, isLocal_iff, isDomain_iff] at valid
    exact ⟨front, back, equal, absent, valid⟩
  · intro described
    obtain ⟨front, back, equal, absent, valid⟩ := described
    refine ⟨(front, back), cut?_eq_some_iff.mpr ⟨equal, absent⟩, ?_⟩
    rw [Bool.and_eq_true, isLocal_iff, isDomain_iff]
    exact valid

/-- A cut whose parts the expression matches is the cut at the last `@`. -/
theorem cut?_of_matched {text front back : List Char}
    (equal : text = front ++ '@' :: back)
    (backIn : back ∈ domainPattern.language) :
    cut? text = some (front, back) :=
  cut?_eq_some_iff.mpr
    ⟨equal, (mem_domainPattern_iff.mp backIn).not_mem_at⟩

theorem mem_pattern_iff_parts {text : List Char} :
    text ∈ pattern.language ↔
      ∃ front back, text = front ++ '@' :: back ∧ '@' ∉ back ∧
        LocalPart front ∧ DomainPart back := by
  rw [mem_pattern_iff]
  constructor
  · intro member
    obtain ⟨front, frontIn, back, backIn, equal⟩ := member
    have domain := mem_domainPattern_iff.mp backIn
    exact ⟨front, back, equal, domain.not_mem_at,
      mem_localPattern_iff.mp frontIn, domain⟩
  · intro described
    obtain ⟨front, back, equal, _, isLocalPart, isDomainPart⟩ := described
    exact ⟨front, mem_localPattern_iff.mpr isLocalPart, back,
      mem_domainPattern_iff.mpr isDomainPart, equal⟩

/-- Mail addresses are the texts that the expression matches, and the texts
whose parts around the last `@` are a local part and a domain.  The expression
matches the parts of no other cut. -/
theorem isEmail_iff (text : String) :
    (Constraint.isEmail text = true ↔ text.toList ∈ pattern.language) ∧
    (Constraint.isEmail text = true ↔
      ∃ front back, text.toList = front ++ '@' :: back ∧ '@' ∉ back ∧
        LocalPart front ∧ DomainPart back) ∧
    (∀ front, front ∈ localPattern.language ↔ LocalPart front) ∧
    (∀ back, back ∈ domainPattern.language ↔ DomainPart back) ∧
    (∀ front back,
      text.toList = front ++ '@' :: back →
      front ∈ localPattern.language → back ∈ domainPattern.language →
        '@' ∉ back ∧
        ∀ otherFront otherBack,
          text.toList = otherFront ++ '@' :: otherBack →
          otherFront ∈ localPattern.language →
          otherBack ∈ domainPattern.language →
            otherFront = front ∧ otherBack = back) := by
  refine ⟨?_, isAddress_iff, fun _ => mem_localPattern_iff,
    fun _ => mem_domainPattern_iff, ?_⟩
  · rw [mem_pattern_iff_parts]
    exact isAddress_iff
  · intro front back equal _ backIn
    constructor
    · exact (mem_domainPattern_iff.mp backIn).not_mem_at
    · intro otherFront otherBack otherEqual _ otherBackIn
      have cut := cut?_of_matched equal backIn
      rw [cut?_of_matched otherEqual otherBackIn] at cut
      cases cut
      exact ⟨rfl, rfl⟩

/-- A quoted local part may hold quotes, white space and an `@`. -/
example : Constraint.isEmail "\"a@b\" c\"@x-1.example.org" = true := by
  decide +kernel

end FieldCheck.Text.Address
