import FieldCheck.Proofs.TemplateResolution
import FieldCheck.Settings.File

/-!
# Which settings can be put to use

Settings describe a catalog exactly when all their templates stand under names
of kinds of messages (`Settings.Usable`); otherwise the least name that is none
is reported.  Every way to load settings makes the same check, so settings that
were loaded and then changed by the operations on settings can always be put to
use.
-/

namespace FieldCheck

namespace Message.Kind

def Unknown (name : String) : Prop :=
  ∀ kind : Kind, kind.text ≠ name

theorem ofText?_eq_some_iff {name : String} {kind : Kind} :
    ofText? name = some kind ↔ kind.text = name := by
  constructor
  · exact text_of_ofText?
  · intro named
    rw [← named]
    exact ofText?_text kind

theorem ofText?_eq_none_iff {name : String} :
    ofText? name = none ↔ Unknown name := by
  simp only [Option.eq_none_iff_forall_ne_some, ne_eq, ofText?_eq_some_iff,
    Unknown]

end Message.Kind

namespace Settings

open Message.Kind (Unknown)

/-- Settings whose templates all stand under names of kinds. -/
def Usable (settings : Settings) : Prop :=
  ∀ name ∈ settings.messages.keys, ∃ kind : Message.Kind, kind.text = name

/-- The name in settings that is reported: among those that are no names of
kinds, the least one in the order of the bytes. -/
structure LeastUnknown (settings : Settings) (name : String) : Prop where
  mem : name ∈ settings.messages.keys
  unknown : Unknown name
  least : ∀ other ∈ settings.messages.keys, Unknown other →
    other ≠ name → Text.encoded name < Text.encoded other

section Catalogs

variable {settings : Settings} {entries : List (String × String)}
  {name : String} {fault : SettingsFault} {catalog : Message.Catalog}

theorem addTemplates_of_known
    (known : ∀ entry ∈ entries, ¬ Unknown entry.1) (start : Message.Catalog) :
    ∃ catalog, addTemplates entries start = .ok catalog := by
  induction entries generalizing start with
  | nil => exact ⟨start, rfl⟩
  | cons entry rest induction =>
      obtain ⟨entryKnown, restKnown⟩ := List.forall_mem_cons.mp known
      unfold addTemplates
      cases read : Message.Kind.ofText? entry.1 with
      | none =>
          exact absurd (Message.Kind.ofText?_eq_none_iff.mp read) entryKnown
      | some kind => exact induction restKnown _

theorem addTemplates_of_firstSuch {entry : String × String}
    (first : FirstSuch (fun entry => Unknown entry.1) entries entry)
    (start : Message.Catalog) :
    addTemplates entries start = .error (.unknownKind entry.1) := by
  induction entries generalizing start with
  | nil => exact absurd first not_firstSuch_nil
  | cons head rest induction =>
      unfold addTemplates
      rcases firstSuch_cons.mp first with ⟨unknown, rfl⟩ | ⟨known, inRest⟩
      · rw [Message.Kind.ofText?_eq_none_iff.mpr unknown]
      · cases read : Message.Kind.ofText? head.1 with
        | none =>
            exact absurd (Message.Kind.ofText?_eq_none_iff.mp read) known
        | some kind => exact induction inRest _

/-- The entries are ordered by their names, so the first unknown name is the
least one. -/
theorem leastUnknown_of_firstSuch {entry : String × String}
    (first : FirstSuch (fun entry => Unknown entry.1)
      settings.messages.entries entry) :
    settings.LeastUnknown entry.1 where
  mem := List.mem_map_of_mem first.mem
  unknown := first.has
  least := by
    obtain ⟨before, after, split, _, known⟩ := first
    have ordered := settings.messages.sorted
    rw [split] at ordered
    have ahead := (List.pairwise_cons.mp (List.pairwise_append.mp ordered).2.1).1
    intro other member unknown different
    obtain ⟨found, inEntries, rfl⟩ := List.mem_map.mp member
    rw [split, List.mem_append, List.mem_cons] at inEntries
    rcases inEntries with inBefore | rfl | inAfter
    · exact absurd unknown (known found inBefore)
    · exact absurd rfl different
    · exact Text.before_iff_encoded_lt.mp (ahead found inAfter)

theorem LeastUnknown.unique {other : String}
    (left : settings.LeastUnknown name) (right : settings.LeastUnknown other) :
    name = other := by
  apply Decidable.byContradiction
  intro different
  have forward := left.least other right.mem right.unknown (Ne.symm different)
  have backward := right.least name left.mem left.unknown different
  exact List.lt_irrefl _ (List.lt_trans forward backward)

theorem not_usable_of_leastUnknown (least : settings.LeastUnknown name) :
    ¬ settings.Usable := by
  intro usable
  obtain ⟨kind, named⟩ := usable name least.mem
  exact least.unknown kind named

/-- Settings are usable, or a least unknown name is reported. -/
theorem catalog_cases (settings : Settings) :
    (settings.Usable ∧ ∃ catalog, settings.catalog = .ok catalog) ∨
      ∃ name, settings.LeastUnknown name ∧
        settings.catalog = .error (.unknownKind name) := by
  by_cases some : ∃ entry ∈ settings.messages.entries, Unknown entry.1
  · obtain ⟨entry, first⟩ := exists_firstSuch_iff.mpr some
    exact .inr ⟨entry.1, leastUnknown_of_firstSuch first,
      addTemplates_of_firstSuch first _⟩
  · push Not at some
    refine .inl ⟨?_, addTemplates_of_known some _⟩
    intro name member
    obtain ⟨entry, inEntries, rfl⟩ := List.mem_map.mp member
    simpa [Unknown] using some entry inEntries

theorem exists_catalog_iff :
    (∃ catalog, settings.catalog = .ok catalog) ↔ settings.Usable := by
  rcases settings.catalog_cases with ⟨usable, described⟩ | ⟨name, least, failed⟩
  · exact iff_of_true described usable
  · simp [failed, not_usable_of_leastUnknown least]

theorem catalog_eq_error_iff :
    settings.catalog = .error fault ↔
      ∃ name, settings.LeastUnknown name ∧ fault = .unknownKind name := by
  rcases settings.catalog_cases with ⟨usable, catalog, described⟩ |
    ⟨name, least, failed⟩
  · rw [described]
    simp only [reduceCtorEq, false_iff, not_exists, not_and]
    intro name least
    exact absurd usable (not_usable_of_leastUnknown least)
  · rw [failed, Except.error.injEq]
    constructor
    · intro same
      exact ⟨name, least, same.symm⟩
    · intro reported
      obtain ⟨other, otherLeast, rfl⟩ := reported
      rw [least.unique otherLeast]

/-- The catalog has the template found under the name of a kind, also an empty
one, and the default of the kind without one. -/
theorem template_of_catalog (described : settings.catalog = .ok catalog)
    (kind : Message.Kind) :
    catalog.template kind =
      (settings.messages.get? kind.text).getD kind.defaultTemplate := by
  have inTemplates : ∀ template, (kind, template) ∈ settings.templates ↔
      settings.messages.get? kind.text = some template := by
    intro template
    rw [← Dictionary.mem_entries_iff]
    simp only [templates, List.mem_filterMap, Option.map_eq_some_iff,
      Prod.mk.injEq, Message.Kind.ofText?_eq_some_iff, Prod.exists]
    constructor
    · intro listed
      obtain ⟨_, _, member, _, rfl, rfl, rfl⟩ := listed
      exact member
    · intro member
      exact ⟨_, _, member, kind, rfl, rfl, rfl⟩
  have gives : ∀ template,
      Message.Catalog.Gives settings.templates kind template →
        template =
          (settings.messages.get? kind.text).getD kind.defaultTemplate := by
    intro template gives
    cases gives with
    | set last => rw [(inTemplates template).mp last.mem, Option.getD_some]
    | default silent =>
        cases found : settings.messages.get? kind.text with
        | none => rfl
        | some template =>
            exact absurd rfl (silent _ ((inTemplates template).mpr found))
  apply gives
  rw [Message.Catalog.gives_iff, catalog_eq_ofPairs described]

end Catalogs

/-- Where settings are loaded from. -/
inductive Source where
  | document (format : DocumentFormat) (text : String)
  | file (path : String) (content : FileContent)
  | environment (given : Environment) (file? : Option String)
  | lookup (read : String → Option String)

def Source.load : Source → Except SettingsFault Settings
  | .document format text => ofDocument format text
  | .file path content => ofFile path content
  | .environment given file? => ofEnvironmentAndFile given file?
  | .lookup read => ofLookup read

def described? : DocumentFormat → String → Option Settings
  | .json, text => (Json.read? text).bind ofJson?
  | .toml, text => (Toml.read? text).bind ofToml?

/-- An operation on settings. -/
inductive Change where
  | presence (presence : Presence)
  | logFailures (enabled : Bool)
  | message (kind : Message.Kind) (template : String)

def changed (settings : Settings) : Change → Settings
  | .presence presence => settings.withPresence presence
  | .logFailures enabled => settings.withLogFailures enabled
  | .message kind template => settings.withMessage kind template

def changedAll (settings : Settings) (changes : List Change) : Settings :=
  changes.foldl changed settings

section Loading

variable {settings : Settings} {fault : SettingsFault}

theorem exceptBind_eq_ok_iff {ε α β : Type} {first : Except ε α}
    {next : α → Except ε β} {result : β} :
    first >>= next = .ok result ↔
      ∃ value, first = .ok value ∧ next value = .ok result := by
  cases first <;> simp [bind, Except.bind]

theorem exceptBind_eq_error_iff {ε β γ : Type} {first : Except ε β}
    {next : β → Except ε γ} {fault : ε} :
    first >>= next = .error fault ↔
      first = .error fault ∨
        ∃ value, first = .ok value ∧ next value = .error fault := by
  cases first <;> simp [bind, Except.bind]

theorem checked_eq_ok_iff {result : Settings} :
    settings.checked = .ok result ↔ settings.Usable ∧ result = settings := by
  rw [← exists_catalog_iff, checked, exceptMap_eq_ok_iff, exists_and_right]
  exact and_congr_right (fun _ => eq_comm)

theorem checked_eq_error_iff :
    settings.checked = .error fault ↔ settings.catalog = .error fault :=
  exceptMap_eq_error_iff

theorem ofDocument_eq (format : DocumentFormat) (text : String) :
    ofDocument format text =
      match described? format text with
      | some settings => settings.checked
      | none => .error (.malformed format) := by
  cases format <;> rfl

theorem ofFile_eq {path : String} {content : FileContent}
    {format : DocumentFormat} {text : String}
    (named : formatOfPath path = .ok format)
    (held : content.text = .ok text) :
    ofFile path content = ofDocument format text := by
  rw [ofFile, named, held]
  rfl

theorem usable_of_ofDocument {format : DocumentFormat} {text : String}
    (loaded : ofDocument format text = .ok settings) : settings.Usable := by
  rw [ofDocument_eq] at loaded
  split at loaded
  · obtain ⟨usable, rfl⟩ := checked_eq_ok_iff.mp loaded
    exact usable
  · contradiction

theorem usable_of_ofFile {path : String} {content : FileContent}
    (loaded : ofFile path content = .ok settings) : settings.Usable := by
  obtain ⟨format, _, loaded⟩ := exceptBind_eq_ok_iff.mp loaded
  obtain ⟨text, _, loaded⟩ := exceptBind_eq_ok_iff.mp loaded
  exact usable_of_ofDocument loaded

/-- Variables describe no templates. -/
theorem messages_of_ofLookup {read : String → Option String}
    (loaded : ofLookup read = .ok settings) :
    settings.messages = Dictionary.empty := by
  obtain ⟨presence, _, loaded⟩ := exceptBind_eq_ok_iff.mp loaded
  obtain ⟨logFailures, _, loaded⟩ := exceptBind_eq_ok_iff.mp loaded
  cases loaded
  rfl

theorem usable_of_ofLookup {read : String → Option String}
    (loaded : ofLookup read = .ok settings) : settings.Usable := by
  intro name member
  rw [messages_of_ofLookup loaded] at member
  simp [Dictionary.keys, Dictionary.empty] at member

theorem usable_of_load {source : Source}
    (loaded : source.load = .ok settings) : settings.Usable := by
  cases source with
  | document format text =>
      exact usable_of_ofDocument
        (show ofDocument format text = .ok settings from loaded)
  | file path content => exact usable_of_ofFile loaded
  | environment given file? =>
      cases file? with
      | none => exact usable_of_ofLookup loaded
      | some file => exact usable_of_ofLookup loaded
  | lookup read => exact usable_of_ofLookup loaded

theorem Usable.changed (usable : settings.Usable) (change : Change) :
    (settings.changed change).Usable := by
  cases change with
  | presence | logFailures => exact usable
  | message kind template =>
      intro name member
      obtain ⟨found, read⟩ := Dictionary.mem_keys_iff.mp member
      by_cases here : name = kind.text
      · exact ⟨kind, here.symm⟩
      · apply usable name
        have kept : (settings.withMessage kind template).messages.get? name =
            settings.messages.get? name := by
          rw [withMessage, withNamedMessage, Dictionary.get?_insert,
            if_neg here]
        exact Dictionary.mem_keys_iff.mpr ⟨found, kept.symm.trans read⟩

theorem Usable.changedAll (usable : settings.Usable) (changes : List Change) :
    (settings.changedAll changes).Usable := by
  induction changes generalizing settings with
  | nil => exact usable
  | cons change rest induction => exact induction (usable.changed change)

theorem ofSettings_eq (settings : Settings) :
    Validator.ofSettings settings =
      match settings.catalog with
      | .ok catalog =>
          .ok ⟨settings, catalog, Dictionary.empty, Report.empty⟩
      | .error fault => .error fault := by
  unfold Validator.ofSettings
  cases settings.catalog <;> rfl

theorem exists_ofSettings_iff :
    (∃ validator, Validator.ofSettings settings = .ok validator) ↔
      settings.Usable := by
  rw [← exists_catalog_iff, ofSettings_eq]
  cases settings.catalog <;> simp

theorem ofSettings_eq_error_iff :
    Validator.ofSettings settings = .error fault ↔
      settings.catalog = .error fault :=
  exceptMap_eq_error_iff

end Loading

/-- Settings and the catalogs that they describe.  Catalog and validator can be
made exactly when every name is that of a kind, and otherwise both report the
least name that is none; the catalog is read off the names, and a new validator
has nothing but the settings and this catalog.  Settings that were loaded and
changed can be put to use, and a document of which nothing but a name is wrong
is refused with the same fault. -/
theorem catalog_of_settings :
    (∀ settings : Settings,
      ((∃ catalog, settings.catalog = .ok catalog) ↔ settings.Usable) ∧
      ((∃ validator, Validator.ofSettings settings = .ok validator) ↔
        settings.Usable) ∧
      (∀ fault, settings.catalog = .error fault ↔
        ∃ name, settings.LeastUnknown name ∧ fault = .unknownKind name) ∧
      (∀ fault, Validator.ofSettings settings = .error fault ↔
        ∃ name, settings.LeastUnknown name ∧ fault = .unknownKind name) ∧
      (∀ catalog, settings.catalog = .ok catalog →
        (∀ kind, catalog.template kind =
          (settings.messages.get? kind.text).getD kind.defaultTemplate) ∧
        Validator.ofSettings settings =
          .ok ⟨settings, catalog, Dictionary.empty, Report.empty⟩)) ∧
    (∀ (source : Source) settings, source.load = .ok settings →
      ∀ changes, ∃ validator,
        Validator.ofSettings (settings.changedAll changes) = .ok validator) ∧
    (∀ format text settings fault, described? format text = some settings →
      settings.catalog = .error fault →
        (Source.document format text).load = .error fault ∧
        ∀ path content, formatOfPath path = .ok format →
          content.text = .ok text →
            (Source.file path content).load = .error fault) := by
  refine ⟨?_, ?_, ?_⟩
  · intro settings
    refine ⟨exists_catalog_iff, exists_ofSettings_iff,
      fun _ => catalog_eq_error_iff, ?_, ?_⟩
    · intro fault
      rw [ofSettings_eq_error_iff, catalog_eq_error_iff]
    · intro catalog described
      refine ⟨template_of_catalog described, ?_⟩
      rw [ofSettings_eq, described]
  · intro source settings loaded changes
    exact exists_ofSettings_iff.mpr ((usable_of_load loaded).changedAll changes)
  · intro format text settings fault described failed
    have refused : ofDocument format text = .error fault := by
      rw [ofDocument_eq, described]
      exact checked_eq_error_iff.mpr failed
    refine ⟨refused, ?_⟩
    intro path content named held
    exact (ofFile_eq named held).trans refused

/-- A JSON document with two unknown names is refused for the lesser one, and
so is a file that holds it.  One with a known name gives settings that can be
put to use after changes. -/
theorem catalog_of_settings_documents :
    let refused :=
      "\x7b\"messages\":\x7b\"phone\":\"\",\"mail\":\"\"\x7d\x7d"
    let loaded := "\x7b\"messages\":\x7b\"email\":\"\"\x7d\x7d"
    (Source.document .json refused).load = .error (.unknownKind "mail") ∧
    (Source.file "a.JSON" (.bytes refused.toUTF8)).load =
      .error (.unknownKind "mail") ∧
    (∃ settings, (Source.document .json loaded).load = .ok settings ∧
      ∃ validator, Validator.ofSettings (settings.changedAll
        [.message .alpha "letters", .logFailures false]) = .ok validator) := by
  intro refused loaded
  obtain ⟨_, usable, rejected⟩ := catalog_of_settings
  have described : described? .json refused = some
      ⟨.positive, true, Dictionary.ofPairs [("phone", ""), ("mail", "")]⟩ := by
    decide +kernel
  have loads : (Source.document .json loaded).load =
      .ok ⟨.positive, true, Dictionary.ofPairs [("email", "")]⟩ := by
    decide +kernel
  have held : (FileContent.bytes refused.toUTF8).text = .ok refused := by
    decide +kernel
  obtain ⟨document, file⟩ := rejected .json refused _ _ described rfl
  exact ⟨document, file "a.JSON" _ rfl held, _, loads, usable _ _ loads _⟩

end Settings

end FieldCheck
