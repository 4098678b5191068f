import FieldCheck.Journal.Operation
import FieldCheck.Proofs.VariableReading

/-!
# The setup that an environment describes

Every environment describes one setup, and four variables count for it.  The
level and the layout are given by names, with any blanks around them and any
letters in capitals; a text that names nothing counts like none.  Without a
level the variable for finding faults may still lower it.  This variable and
the one for time stamps are turned on by two words, which must stand alone.
-/

namespace FieldCheck

namespace Text

/-- Characters that are those of a word, each as it is or as an ASCII
capital. -/
def Spells (word : String) (characters : List Char) : Prop :=
  List.Forall₂
    (fun letter character => character = letter ∨ character = letter.toUpper)
    word.toList characters

/-- A text names a value: one of its spellings stands in the text, and there
are only blanks around it. -/
def Names {α : Type} (spellings : List (String × α)) (text : String)
    (value : α) : Prop :=
  ∃ word core, (word, value) ∈ spellings ∧ Padded core text.toList ∧
    Spells word core

def IsNormal (word : String) : Prop :=
  ∀ letter ∈ word.toList, letter.isUpper = false ∧ isBlank letter = false

instance (word : String) : Decidable (IsNormal word) :=
  List.decidableBAll _ _

theorem toNat_toUpper (character : Char) :
    character.toUpper.toNat =
      if 97 ≤ character.toNat ∧ character.toNat ≤ 122 then
        character.toNat - 32
      else character.toNat := by
  have small_iff : ('a'.val ≤ character.val ∧ character.val ≤ 'z'.val) ↔
      97 ≤ character.toNat ∧ character.toNat ≤ 122 := by
    rw [UInt32.le_iff_toNat_le, UInt32.le_iff_toNat_le]
    rfl
  have shift : ('A'.val - 'a'.val).toNat = 2 ^ 32 - 32 := rfl
  unfold Char.toUpper
  split
  case isTrue small =>
    rw [small_iff] at small
    rw [if_pos small]
    change (character.val + ('A'.val - 'a'.val)).toNat = _
    rw [UInt32.toNat_add, shift, Char.toNat_val]
    omega
  case isFalse notSmall =>
    rw [small_iff] at notSmall
    rw [if_neg notSmall]

theorem toLower_eq_iff {character letter : Char}
    (small : letter.isUpper = false) :
    character.toLower = letter ↔
      character = letter ∨ character = letter.toUpper := by
  have notCapital : ¬ (65 ≤ letter.toNat ∧ letter.toNat ≤ 90) := by
    unfold Char.isUpper at small
    simpa [UInt32.le_iff_toNat_le] using small
  rw [← Char.toNat_inj, ← Char.toNat_inj, ← Char.toNat_inj, toNat_toLower,
    toNat_toUpper]
  split <;> split <;> omega

section Spellings

variable {α : Type} {spellings : List (String × α)} {word text : String}
  {characters : List Char} {value : α}

theorem IsNormal.small (normal : IsNormal word) :
    ∀ letter ∈ word.toList, letter.isUpper = false :=
  fun letter member => (normal letter member).1

theorem map_toLower_eq_iff
    (small : ∀ letter ∈ word.toList, letter.isUpper = false) :
    characters.map Char.toLower = word.toList ↔ Spells word characters := by
  unfold Spells
  generalize word.toList = letters at small
  induction letters generalizing characters with
  | nil => simp
  | cons letter rest induction =>
      obtain ⟨letterSmall, restSmall⟩ := List.forall_mem_cons.mp small
      cases characters with
      | nil => simp
      | cons character others =>
          rw [List.map_cons, List.cons.injEq, List.forall₂_cons,
            toLower_eq_iff letterSmall, induction restSmall]

theorem lowered_eq_iff (normal : IsNormal word) :
    lowered text = word ↔ Spells word text.toList := by
  rw [← map_toLower_eq_iff normal.small, ← String.toList_inj, toList_lowered]

theorem normalized_eq_iff (normal : IsNormal word) :
    normalized text = word ↔
      ∃ core, Padded core text.toList ∧ Spells word core := by
  rw [normalized, lowered_eq_iff normal, toList_trim]
  constructor
  · intro spells
    exact ⟨trimmed text.toList, padded_trimmed text.toList, spells⟩
  · intro described
    obtain ⟨core, padded, spells⟩ := described
    have coreInked : ∀ character ∈ core, isBlank character = false := by
      intro character member
      rw [← isBlank_toLower]
      refine (normal _ ?_).2
      rw [← (map_toLower_eq_iff normal.small).mpr spells]
      exact List.mem_map_of_mem member
    rwa [trimmed_of_padded padded, trimmed_of_no_blank coreInked]

/-- The normal form of a text is a spelling of what the text names. -/
theorem normalized_mem_iff
    (allNormal : ∀ spelling ∈ spellings, IsNormal spelling.1) :
    (normalized text, value) ∈ spellings ↔ Names spellings text value := by
  constructor
  · intro member
    obtain ⟨core, padded, spells⟩ :=
      (normalized_eq_iff (allNormal _ member)).mp rfl
    exact ⟨_, core, member, padded, spells⟩
  · intro names
    obtain ⟨word, core, member, padded, spells⟩ := names
    have normal : normalized text = word :=
      (normalized_eq_iff (allNormal _ member)).mpr ⟨core, padded, spells⟩
    rwa [normal]

end Spellings

end Text

namespace Journal

namespace Level

def spellings : List (String × Level) :=
  [("trace", .trace), ("debug", .debug), ("info", .info), ("warn", .warn),
    ("warning", .warn), ("error", .error), ("off", .off), ("none", .off)]

theorem parse?_eq_some_iff {text : String} {level : Level} :
    parse? text = some level ↔ Text.Names spellings text level := by
  rw [← Text.normalized_mem_iff (by decide)]
  unfold parse? spellings
  generalize Text.normalized text = spelling
  split <;> simp_all [eq_comm]

end Level

namespace Layout

def spellings : List (String × Layout) :=
  [("pretty", .pretty), ("json", .json)]

theorem parse?_eq_some_iff {text : String} {layout : Layout} :
    parse? text = some layout ↔ Text.Names spellings text layout := by
  rw [← Text.normalized_mem_iff (by decide)]
  unfold parse? spellings
  generalize Text.normalized text = spelling
  split <;> simp_all [eq_comm]

end Layout

namespace Setup

open Environment (levelName debugName layoutName timestampsName)

/-- A text turns something on. -/
def TurnsOn (text : String) : Prop :=
  text = "1" ∨ Text.Spells "true" text.toList

def Given {α : Type} (environment : Environment) (name : String)
    (spellings : List (String × α)) (value : α) : Prop :=
  ∃ text, environment.get? name = some text ∧ Text.Names spellings text value

def SetOn (environment : Environment) (name : String) : Prop :=
  ∃ text, environment.get? name = some text ∧ TurnsOn text

/-- The level that an environment describes. -/
inductive DescribesLevel (environment : Environment) : Level → Prop where
  | named {level : Level}
      (given : Given environment levelName Level.spellings level) :
      DescribesLevel environment level
  | lowered
      (unnamed : ∀ level, ¬ Given environment levelName Level.spellings level)
      (on : SetOn environment debugName) : DescribesLevel environment .debug
  | standard
      (unnamed : ∀ level, ¬ Given environment levelName Level.spellings level)
      (off : ¬ SetOn environment debugName) : DescribesLevel environment .warn

/-- The layout that an environment describes. -/
inductive DescribesLayout (environment : Environment) : Layout → Prop where
  | named {layout : Layout}
      (given : Given environment layoutName Layout.spellings layout) :
      DescribesLayout environment layout
  | standard
      (unnamed : ∀ layout,
        ¬ Given environment layoutName Layout.spellings layout) :
      DescribesLayout environment .pretty

/-- Whether an environment asks for time stamps.  They are turned off by every
text that does not turn them on. -/
inductive DescribesTimestamps (environment : Environment) : Bool → Prop where
  | unset (missing : environment.get? timestampsName = none) :
      DescribesTimestamps environment true
  | on (on : SetOn environment timestampsName) :
      DescribesTimestamps environment true
  | off {text : String} (set : environment.get? timestampsName = some text)
      (off : ¬ TurnsOn text) : DescribesTimestamps environment false

/-- The setup that an environment describes. -/
structure Describes (environment : Environment) (setup : Setup) : Prop where
  level : DescribesLevel environment setup.level
  layout : DescribesLayout environment setup.layout
  timestamps : DescribesTimestamps environment setup.timestamps

section Readings

variable {α : Type} {environment other : Environment} {name text : String}
  {spellings : List (String × α)} {read? : String → Option α} {value : α}
  {level : Level} {layout : Layout} {truth : Bool} {setup : Setup}

theorem turnsOn_iff : turnsOn text = true ↔ TurnsOn text := by
  unfold turnsOn TurnsOn
  rw [Bool.or_eq_true, beq_iff_eq, beq_iff_eq, Text.lowered_eq_iff (by decide)]

theorem any_turnsOn_iff :
    (environment.get? name).any turnsOn = true ↔ SetOn environment name := by
  simp only [Option.any_eq_true, turnsOn_iff, SetOn]

theorem bind_eq_some_iff_given
    (reads : ∀ {text value}, read? text = some value ↔
      Text.Names spellings text value) :
    (environment.get? name).bind read? = some value ↔
      Given environment name spellings value := by
  simp only [Option.bind_eq_some_iff, reads, Given]

theorem bind_eq_none_iff_given
    (reads : ∀ {text value}, read? text = some value ↔
      Text.Names spellings text value) :
    (environment.get? name).bind read? = none ↔
      ∀ value, ¬ Given environment name spellings value := by
  simp only [Option.eq_none_iff_forall_ne_some, ne_eq,
    bind_eq_some_iff_given reads]

theorem level_ofEnvironment_iff :
    (ofEnvironment environment).level = level ↔
      DescribesLevel environment level := by
  unfold ofEnvironment
  constructor
  · rintro rfl
    cases given :
        (environment.get? Environment.levelName).bind Level.parse? with
    | some level =>
        exact .named
          ((bind_eq_some_iff_given Level.parse?_eq_some_iff).mp given)
    | none =>
        have unnamed :=
          (bind_eq_none_iff_given Level.parse?_eq_some_iff).mp given
        by_cases on :
            (environment.get? Environment.debugName).any turnsOn = true
        · simp only [if_pos on]
          exact .lowered unnamed (any_turnsOn_iff.mp on)
        · simp only [if_neg on]
          exact .standard unnamed (fun turned => on (any_turnsOn_iff.mpr turned))
  · intro describes
    cases describes with
    | named given =>
        simp only [(bind_eq_some_iff_given Level.parse?_eq_some_iff).mpr given]
    | lowered unnamed on =>
        simp only [(bind_eq_none_iff_given Level.parse?_eq_some_iff).mpr unnamed,
          if_pos (any_turnsOn_iff.mpr on)]
    | standard unnamed off =>
        rw [← any_turnsOn_iff] at off
        simp only [(bind_eq_none_iff_given Level.parse?_eq_some_iff).mpr unnamed,
          if_neg off]
        rfl

theorem layout_ofEnvironment_iff :
    (ofEnvironment environment).layout = layout ↔
      DescribesLayout environment layout := by
  unfold ofEnvironment
  constructor
  · rintro rfl
    cases read : (environment.get? layoutName).bind Layout.parse? with
    | none =>
        exact .standard
          ((bind_eq_none_iff_given Layout.parse?_eq_some_iff).mp read)
    | some layout =>
        exact .named
          ((bind_eq_some_iff_given Layout.parse?_eq_some_iff).mp read)
  · intro describes
    cases describes with
    | named given =>
        rw [(bind_eq_some_iff_given Layout.parse?_eq_some_iff).mpr given]
        rfl
    | standard unnamed =>
        rw [(bind_eq_none_iff_given Layout.parse?_eq_some_iff).mpr unnamed]
        rfl

theorem timestamps_ofEnvironment_iff :
    (ofEnvironment environment).timestamps = truth ↔
      DescribesTimestamps environment truth := by
  unfold ofEnvironment
  constructor
  · rintro rfl
    cases set : environment.get? timestampsName with
    | none => exact .unset set
    | some text =>
        cases on : turnsOn text with
        | true =>
            rw [Option.map_some, on]
            exact .on ⟨text, set, turnsOn_iff.mp on⟩
        | false =>
            rw [Option.map_some, on]
            refine .off set ?_
            rw [← turnsOn_iff, on]
            exact Bool.false_ne_true
  · intro describes
    cases describes with
    | unset missing =>
        rw [missing]
        rfl
    | on on =>
        obtain ⟨text, set, turns⟩ := on
        rw [set, Option.map_some, turnsOn_iff.mpr turns]
        rfl
    | off set off =>
        rw [← turnsOn_iff, Bool.not_eq_true] at off
        rw [set, Option.map_some, off]
        rfl

theorem ofEnvironment_eq_iff :
    ofEnvironment environment = setup ↔ Describes environment setup := by
  constructor
  · rintro rfl
    exact ⟨level_ofEnvironment_iff.mp rfl, layout_ofEnvironment_iff.mp rfl,
      timestamps_ofEnvironment_iff.mp rfl⟩
  · intro describes
    obtain ⟨levelGiven, layoutGiven, timestampsGiven⟩ := describes
    obtain ⟨level, layout, timestamps⟩ := setup
    rw [← level_ofEnvironment_iff] at levelGiven
    rw [← layout_ofEnvironment_iff] at layoutGiven
    rw [← timestamps_ofEnvironment_iff] at timestampsGiven
    subst levelGiven layoutGiven timestampsGiven
    rfl

theorem level_congr
    (same : ∀ name ∈ [levelName, debugName],
      other.get? name = environment.get? name) :
    (ofEnvironment other).level = (ofEnvironment environment).level := by
  unfold ofEnvironment
  rw [same levelName (by simp), same debugName (by simp)]

theorem layout_congr
    (same : other.get? layoutName = environment.get? layoutName) :
    (ofEnvironment other).layout = (ofEnvironment environment).layout := by
  unfold ofEnvironment
  rw [same]

theorem timestamps_congr
    (same : other.get? timestampsName = environment.get? timestampsName) :
    (ofEnvironment other).timestamps =
      (ofEnvironment environment).timestamps := by
  unfold ofEnvironment
  rw [same]

end Readings

end Setup

open Environment (levelName debugName layoutName timestampsName)

/-- The setup that an environment gives a journal.  Every environment describes
just one: the level that is named, or else a low one if faults are looked for,
or else the standard one; the layout that is named, or else the standard one;
and time stamps unless a text turns them off.  Reading the environment again
answers with this setup and makes its level the threshold, as setting up a
closed journal does.  No part of it depends on the variables of another. -/
theorem setup_of_environment (environment : Environment) (journal : Journal) :
    (∀ setup, Setup.ofEnvironment environment = setup ↔
      Setup.Describes environment setup) ∧
    (∃ setup, Setup.Describes environment setup ∧
      journal.reply environment .reread = .setup setup ∧
      journal.after environment .reread = ⟨setup.level, journal.setup?⟩ ∧
      (journal.setup? = none →
        journal.opened environment = ⟨setup.level, some setup⟩)) ∧
    (∀ other : Environment,
      (∀ name ∈ [levelName, debugName],
        other.get? name = environment.get? name) →
      (Setup.ofEnvironment other).level =
        (Setup.ofEnvironment environment).level) ∧
    (∀ other : Environment,
      other.get? layoutName = environment.get? layoutName →
      (Setup.ofEnvironment other).layout =
        (Setup.ofEnvironment environment).layout) ∧
    ∀ other : Environment,
      other.get? timestampsName = environment.get? timestampsName →
      (Setup.ofEnvironment other).timestamps =
        (Setup.ofEnvironment environment).timestamps := by
  refine ⟨fun _ => Setup.ofEnvironment_eq_iff, ?_,
    fun _ => Setup.level_congr, fun _ => Setup.layout_congr,
    fun _ => Setup.timestamps_congr⟩
  refine ⟨_, Setup.ofEnvironment_eq_iff.mp rfl, rfl, rfl, ?_⟩
  intro closed
  rw [opened, closed]
  rfl

/-- A level that is not understood leaves the decision to the other variable,
and a digit behind a blank turns time stamps off; a layout may have blanks and
capitals. -/
theorem setup_of_environment_unknown_level :
    let environment : Environment := Dictionary.ofPairs
      [("FIELDRULE_DEBUG", "tRuE"), ("FIELDRULE_LOG_LEVEL", "verbose"),
        ("FIELDRULE_LOG_FORMAT", "\u3000JSON\n"),
        ("FIELDRULE_LOG_TIMESTAMPS", " 1")]
    let other : Environment := Dictionary.ofPairs
      [("FIELDRULE_DEBUG", "true "), ("FIELDRULE_LOG_FORMAT", "\u3000JSON\n")]
    let setup : Setup := ⟨.debug, .json, false⟩
    Setup.Describes environment setup ∧
      untouched.opened environment = ⟨.debug, some setup⟩ ∧
      other.get? layoutName = environment.get? layoutName ∧
      (Setup.ofEnvironment other).layout = .json := by
  intro environment other setup
  obtain ⟨described, ⟨found, describes, _, _, opens⟩, _, layouts, _⟩ :=
    setup_of_environment environment untouched
  have given : Setup.ofEnvironment environment = setup := by decide +kernel
  have same : other.get? layoutName = environment.get? layoutName := by
    decide +kernel
  have isSetup : setup = found := by
    rw [← given]
    exact (described found).mpr describes
  rw [← isSetup] at opens
  refine ⟨(described setup).mp given, opens rfl, same, ?_⟩
  rw [layouts other same, given]

end Journal

end FieldCheck
