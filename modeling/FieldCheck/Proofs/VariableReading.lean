import FieldCheck.Proofs.ExpressionWriting
import FieldCheck.Proofs.SettingsAcceptance

/-!
# Settings from variables

Each of two variables is read on its own: one that is not set leaves the
standard setting, and one that is set must name a value once blank ends and
ASCII capitals are taken away.  The first variable that does not is reported
with its text as it was given.  No other variable counts, and neither do blanks
around a text nor the case of its letters.
-/

namespace FieldCheck

namespace Text

theorem toNat_toLower (character : Char) :
    character.toLower.toNat =
      if 65 ≤ character.toNat ∧ character.toNat ≤ 90 then
        character.toNat + 32
      else character.toNat := by
  have capital_iff : ('A'.val ≤ character.val ∧ character.val ≤ 'Z'.val) ↔
      65 ≤ character.toNat ∧ character.toNat ≤ 90 := by
    rw [UInt32.le_iff_toNat_le, UInt32.le_iff_toNat_le]
    rfl
  have shift : ('a'.val - 'A'.val).toNat = 32 := rfl
  unfold Char.toLower
  split
  case isTrue capital =>
    rw [capital_iff] at capital
    rw [if_pos capital]
    change (character.val + ('a'.val - 'A'.val)).toNat = _
    rw [UInt32.toNat_add, shift, Char.toNat_val]
    omega
  case isFalse notCapital =>
    rw [capital_iff] at notCapital
    rw [if_neg notCapital]

theorem isBlank_toLower (character : Char) :
    isBlank character.toLower = isBlank character := by
  by_cases capital : 65 ≤ character.toNat ∧ character.toNat ≤ 90
  · have small := (toNat_toLower character).trans (if_pos capital)
    rw [not_blank_of_printable, not_blank_of_printable]
    all_goals omega
  · have same := (toNat_toLower character).trans (if_neg capital)
    rw [Char.toNat_inj.mp same]

theorem trimmed_map_toLower (characters : List Char) :
    trimmed (characters.map Char.toLower) =
      (trimmed characters).map Char.toLower := by
  have keeps : isBlank ∘ Char.toLower = isBlank := funext isBlank_toLower
  simp only [trimmed, List.dropWhile_map, keeps, ← List.map_reverse]

/-- A text that differs from another one in blanks around it and in the case of
its ASCII letters only. -/
def Restyled (text other : String) : Prop :=
  ∃ core, Padded core other.toList ∧
    core.map Char.toLower = text.toList.map Char.toLower

theorem normalized_of_restyled {text other : String}
    (restyled : Restyled text other) : normalized other = normalized text := by
  obtain ⟨core, padded, sameLetters⟩ := restyled
  simp only [normalized, lowered, toList_trim, trimmed_of_padded padded,
    ← trimmed_map_toLower, sameLetters]

end Text

namespace Presence

def spellings : List (String × Presence) :=
  [("positive", .positive), ("non_zero", .nonZero), ("nonzero", .nonZero),
    ("non-zero", .nonZero), ("any", .any)]

theorem parse?_eq_some_iff {text : String} {presence : Presence} :
    parse? text = some presence ↔
      (Text.normalized text, presence) ∈ spellings := by
  unfold parse? spellings
  generalize Text.normalized text = spelling
  split <;> simp_all [eq_comm]

end Presence

namespace Settings

open Environment (presenceName logFailuresName)

def truthSpellings : List (String × Bool) :=
  [("1", true), ("true", true), ("yes", true), ("on", true), ("0", false),
    ("false", false), ("no", false), ("off", false)]

/-- What a variable says: the value that its text spells, or the standard one
when it is not set. -/
inductive Tells {α : Type} (lookup : String → Option String) (name : String)
    (spellings : List (String × α)) (unset : α) : α → Prop where
  | unset (missing : lookup name = none) :
      Tells lookup name spellings unset unset
  | spelled {text : String} {value : α} (set : lookup name = some text)
      (listed : (Text.normalized text, value) ∈ spellings) :
      Tells lookup name spellings unset value

/-- A variable that is set to a text that spells nothing. -/
structure Misspelled {α : Type} (lookup : String → Option String)
    (name : String) (spellings : List (String × α)) (text : String) : Prop where
  set : lookup name = some text
  unlisted : ∀ value, (Text.normalized text, value) ∉ spellings

theorem truth?_eq_some_iff {text : String} {truth : Bool} :
    truth? text = some truth ↔
      (Text.normalized text, truth) ∈ truthSpellings := by
  unfold truth? truthSpellings
  generalize Text.normalized text = spelling
  split <;> simp_all [eq_comm]

section Variables

variable {α : Type} {lookup other : String → Option String} {name : String}
  {spellings : List (String × α)} {read? : String → Option α} {unset value : α}
  {fault : SettingsFault} {settings : Settings}

theorem readVariable_eq_ok_iff
    (reads : ∀ {text value}, read? text = some value ↔
      (Text.normalized text, value) ∈ spellings) :
    readVariable lookup name read? unset = .ok value ↔
      Tells lookup name spellings unset value := by
  unfold readVariable
  constructor
  · intro given
    cases set : lookup name with
    | none =>
        simp only [set, Except.ok.injEq] at given
        exact given ▸ .unset set
    | some text =>
        cases read : read? text with
        | none => simp [set, read] at given
        | some found =>
            simp only [set, read, Except.ok.injEq] at given
            exact .spelled set (reads.mp (given ▸ read))
  · intro tells
    cases tells with
    | unset missing => simp only [missing]
    | spelled set listed => simp only [set, reads.mpr listed]

theorem readVariable_eq_error_iff
    (reads : ∀ {text value}, read? text = some value ↔
      (Text.normalized text, value) ∈ spellings) :
    readVariable lookup name read? unset = .error fault ↔
      ∃ text, Misspelled lookup name spellings text ∧
        fault = .invalidValue name text := by
  unfold readVariable
  constructor
  · intro failed
    cases set : lookup name with
    | none => simp [set] at failed
    | some text =>
        cases read : read? text with
        | some found => simp [set, read] at failed
        | none =>
            simp only [set, read, Except.error.injEq] at failed
            refine ⟨text, ⟨set, ?_⟩, failed.symm⟩
            intro value listed
            rw [reads.mpr listed] at read
            contradiction
  · intro described
    obtain ⟨text, ⟨set, unlisted⟩, rfl⟩ := described
    have unread : read? text = none := by
      rw [Option.eq_none_iff_forall_ne_some]
      intro value read
      exact unlisted value (reads.mp read)
    simp only [set, unread]

theorem ofLookup_eq_ok_iff :
    ofLookup lookup = .ok settings ↔
      Tells lookup presenceName Presence.spellings standard.presence
        settings.presence ∧
      Tells lookup logFailuresName truthSpellings standard.logFailures
        settings.logFailures ∧
      settings.messages = Dictionary.empty := by
  unfold ofLookup
  simp only [exceptBind_eq_ok_iff,
    readVariable_eq_ok_iff Presence.parse?_eq_some_iff,
    readVariable_eq_ok_iff truth?_eq_some_iff]
  constructor
  · intro read
    obtain ⟨presence, presenceTold, truth, truthTold, equal⟩ := read
    cases equal
    exact ⟨presenceTold, truthTold, rfl⟩
  · intro told
    obtain ⟨presenceTold, truthTold, empty⟩ := told
    refine ⟨_, presenceTold, _, truthTold, ?_⟩
    rw [standard, ← empty]
    rfl

/-- The variable for presence is looked at first. -/
theorem ofLookup_eq_error_iff :
    ofLookup lookup = .error fault ↔
      (∃ text, Misspelled lookup presenceName Presence.spellings text ∧
        fault = .invalidValue presenceName text) ∨
      (∃ presence, Tells lookup presenceName Presence.spellings
        standard.presence presence) ∧
      ∃ text, Misspelled lookup logFailuresName truthSpellings text ∧
        fault = .invalidValue logFailuresName text := by
  unfold ofLookup
  simp only [exceptBind_eq_error_iff,
    readVariable_eq_ok_iff Presence.parse?_eq_some_iff,
    readVariable_eq_error_iff Presence.parse?_eq_some_iff,
    readVariable_eq_error_iff truth?_eq_some_iff, pure, Except.pure,
    reduceCtorEq, and_false, exists_false, or_false, exists_and_right]

/-- What a variable tells is told by the normal form of its text. -/
theorem Tells.transport
    (same : (lookup name).map Text.normalized =
      (other name).map Text.normalized)
    (tells : Tells lookup name spellings unset value) :
    Tells other name spellings unset value := by
  cases tells with
  | unset missing =>
      rw [missing, Option.map_none, eq_comm, Option.map_eq_none_iff] at same
      exact .unset same
  | spelled set listed =>
      rw [set, Option.map_some, eq_comm, Option.map_eq_some_iff] at same
      obtain ⟨text, otherSet, normal⟩ := same
      exact .spelled otherSet (by rw [normal]; exact listed)

theorem map_normalized_of_restyled {left right : Option String}
    (restyled : Option.Rel Text.Restyled left right) :
    right.map Text.normalized = left.map Text.normalized := by
  cases restyled with
  | none => rfl
  | some textRestyled =>
      exact congrArg some (Text.normalized_of_restyled textRestyled)

theorem ofLookup_eq_ok_congr
    (restyled : ∀ name ∈ [presenceName, logFailuresName],
      Option.Rel Text.Restyled (lookup name) (other name)) :
    ofLookup other = .ok settings ↔ ofLookup lookup = .ok settings := by
  have samePresence :=
    map_normalized_of_restyled (restyled presenceName (by simp))
  have sameTruth :=
    map_normalized_of_restyled (restyled logFailuresName (by simp))
  rw [ofLookup_eq_ok_iff, ofLookup_eq_ok_iff]
  constructor
  · intro told
    obtain ⟨presence, truth, empty⟩ := told
    exact ⟨presence.transport samePresence, truth.transport sameTruth, empty⟩
  · intro told
    obtain ⟨presence, truth, empty⟩ := told
    exact ⟨presence.transport samePresence.symm,
      truth.transport sameTruth.symm, empty⟩

theorem ofLookup_congr
    (same : ∀ name ∈ [presenceName, logFailuresName],
      other name = lookup name) :
    ofLookup other = ofLookup lookup := by
  unfold ofLookup readVariable
  rw [same presenceName (by simp), same logFailuresName (by simp)]

end Variables

/-- The settings that variables describe.  Each of two variables tells its own
setting, and no templates are described; a variable whose text spells nothing
is reported with that text, the one for presence before the other.  Other
variables do not count, and blanks around a text and the case of its letters
change no settings. -/
theorem settings_of_variables (lookup : String → Option String) :
    (∀ settings, ofLookup lookup = .ok settings ↔
      Tells lookup presenceName Presence.spellings standard.presence
        settings.presence ∧
      Tells lookup logFailuresName truthSpellings standard.logFailures
        settings.logFailures ∧
      settings.messages = Dictionary.empty) ∧
    (∀ fault, ofLookup lookup = .error fault ↔
      (∃ text, Misspelled lookup presenceName Presence.spellings text ∧
        fault = .invalidValue presenceName text) ∨
      (∃ presence, Tells lookup presenceName Presence.spellings
        standard.presence presence) ∧
      ∃ text, Misspelled lookup logFailuresName truthSpellings text ∧
        fault = .invalidValue logFailuresName text) ∧
    (∀ other : String → Option String,
      (∀ name ∈ [presenceName, logFailuresName], other name = lookup name) →
      ofLookup other = ofLookup lookup) ∧
    (∀ other : String → Option String,
      (∀ name ∈ [presenceName, logFailuresName],
        Option.Rel Text.Restyled (lookup name) (other name)) →
      ∀ settings, ofLookup other = .ok settings ↔
        ofLookup lookup = .ok settings) :=
  ⟨fun _ => ofLookup_eq_ok_iff, fun _ => ofLookup_eq_error_iff,
    fun _ => ofLookup_congr, fun _ restyled _ => ofLookup_eq_ok_congr restyled⟩

/-- A spelling in capitals and between blanks counts, other variables do not,
and a blank text is reported as it stands. -/
theorem settings_of_variables_capitals :
    let lookup : String → Option String := fun name =>
      if name = presenceName then some "nonzero" else none
    let restyled : String → Option String := fun name =>
      if name = presenceName then some "\u00a0NonZero\n" else none
    let crowded : String → Option String := fun name =>
      if name = "FIELDRULE_DEBUG" then some "1" else lookup name
    let blank : String → Option String := fun name =>
      if name = logFailuresName then some " " else lookup name
    let settings : Settings := ⟨.nonZero, true, Dictionary.empty⟩
    ofLookup lookup = .ok settings ∧
      ofLookup restyled = .ok settings ∧
      ofLookup crowded = .ok settings ∧
      ofLookup blank = .error (.invalidValue logFailuresName " ") := by
  intro lookup restyled crowded blank settings
  obtain ⟨loaded, _, others, styles⟩ := settings_of_variables lookup
  have presence : (Text.normalized "nonzero", Presence.nonZero) ∈
      Presence.spellings := by
    decide +kernel
  have isLoaded : ofLookup lookup = .ok settings :=
    (loaded settings).mpr
      ⟨.spelled (if_pos rfl) presence, .unset (if_neg (by decide)), rfl⟩
  refine ⟨isLoaded, ?_, ?_, ?_⟩
  · apply (styles restyled ?_ settings).mpr isLoaded
    simp only [List.forall_mem_cons, List.not_mem_nil, false_imp_iff,
      implies_true, and_true]
    refine ⟨.some ⟨"NonZero".toList, ?_, by decide⟩, .none⟩
    exact ⟨['\u00a0'], ['\n'], by decide,
      List.forall_mem_singleton.mpr (by decide),
      List.forall_mem_singleton.mpr (by decide)⟩
  · rw [others crowded (by decide), isLoaded]
  · apply ((settings_of_variables blank).2.1 _).mpr
    have set : blank presenceName = some "nonzero" := by decide
    refine .inr ⟨⟨_, .spelled set presence⟩, " ", ⟨if_pos rfl, ?_⟩, rfl⟩
    decide +kernel

end Settings

end FieldCheck
