import FieldCheck.Proofs.ReportViews
import FieldCheck.Proofs.SettingsAcceptance

/-!
# Settings in documents of either format

Settings are written in a document by their parts.  Each part stands under its
own name exactly once, or is left out when it is standard; the order does not
count, and neither do entries under other names.  Both formats are read to the
settings that are written, and so is a file whose extension names the format of
what it holds.
-/

namespace FieldCheck

theorem Presence.ofText?_text (presence : Presence) :
    Presence.ofText? presence.text = some presence := by
  cases presence <;> rfl

namespace Settings

theorem Member.ofText?_text (member : Member) :
    Member.ofText? member.text = some member := by
  cases member <;> rfl

section Extensions

variable {path : String} {name extension : List Char}

/-- The name that a path leads to: the last of its parts, where an empty part
and a dot do not count. -/
def LeadsTo (path : String) (name : List Char) : Prop :=
  LastSuch (fun part => part ≠ [] ∧ part ≠ ['.']) (path.toList.splitOn '/') name

/-- The extension of a path: what comes after the last dot of the name that it
leads to.  A dot that begins the name does not count, and the parent directory
has no extension. -/
def HasExtension (path extension : String) : Prop :=
  ∃ stem, LeadsTo path (stem ++ '.' :: extension.toList) ∧ stem ≠ [] ∧
    '.' ∉ extension.toList ∧ stem ++ '.' :: extension.toList ≠ ['.', '.']

theorem getLast?_pathParts_eq_some_iff :
    (pathParts path).getLast? = some name ↔ LeadsTo path name := by
  rw [pathParts, getLast?_filter_eq_some_iff]
  simp only [LeadsTo, Bool.and_eq_true, bne_iff_ne, ne_eq]

theorem extensionOfName?_eq_some_iff :
    extensionOfName? name = some extension ↔
      ∃ stem, name = stem ++ '.' :: extension ∧ stem ≠ [] ∧
        '.' ∉ extension := by
  simp only [extensionOfName?, Option.ite_none_left_eq_some,
    Option.some.injEq]
  constructor
  · intro read
    obtain ⟨long, rfl⟩ := read
    have whole : name.reverse.takeWhile (· != '.') ++
        name.reverse.dropWhile (· != '.') = name.reverse :=
      List.takeWhile_append_dropWhile
    cases front : name.reverse.dropWhile (· != '.') with
    | nil => simp [front] at long
    | cons dot rest =>
        have isDot : dot = '.' := by
          simpa [front] using List.head_dropWhile_not (· != '.')
            (show name.reverse.dropWhile (· != '.') ≠ [] by simp [front])
        refine ⟨rest.reverse, ?_, ?_, ?_⟩
        · rw [front, isDot] at whole
          simpa using (congrArg List.reverse whole).symm
        · rintro empty
          simp [front, List.reverse_eq_nil_iff.mp empty] at long
        · intro inside
          simpa using List.mem_takeWhile_imp (List.mem_reverse.mp inside)
  · intro described
    obtain ⟨stem, rfl, some, absent⟩ := described
    have noDot : ∀ character ∈ extension.reverse,
        (character != '.') = true := by
      intro character inside
      rw [bne_iff_ne]
      rintro rfl
      exact absent (List.mem_reverse.mp inside)
    rw [List.reverse_append, List.reverse_cons, List.append_assoc,
      List.takeWhile_append_of_pos noDot, List.dropWhile_append_of_pos noDot]
    simp [some]

theorem extension?_eq_some_iff {extension : String} :
    extension? path = some extension ↔ HasExtension path extension := by
  unfold extension? HasExtension
  constructor
  · intro found
    cases last : (pathParts path).getLast? with
    | none => simp [last] at found
    | some name =>
        simp only [last] at found
        by_cases parent : name = ['.', '.']
        · simp [parent] at found
        · rw [if_neg parent] at found
          obtain ⟨characters, read, rfl⟩ := Option.map_eq_some_iff.mp found
          obtain ⟨stem, rfl, some, absent⟩ :=
            extensionOfName?_eq_some_iff.mp read
          rw [String.toList_ofList]
          exact ⟨stem, getLast?_pathParts_eq_some_iff.mp last, some, absent,
            parent⟩
  · intro described
    obtain ⟨stem, leads, some, absent, noParent⟩ := described
    have read := extensionOfName?_eq_some_iff.mpr ⟨stem, rfl, some, absent⟩
    simp only [getLast?_pathParts_eq_some_iff.mpr leads, if_neg noParent, read,
      Option.map_some, String.ofList_toList]

end Extensions

structure Form (V : Type) where
  text : String → V
  flag : Bool → V
  IsTable : List (String × V) → V → Prop

def jsonForm : Form Json where
  text := .ofString
  flag := .flag
  IsTable entries value := value = .ofMembers entries

def tomlForm : Form Toml where
  text := .text
  flag := .flag
  IsTable entries value := ∃ origin, value = .table origin entries

section Documents

variable {V : Type}

/-- A value that holds templates: a table of texts in which the last text of a
name is the template under that name. -/
def Form.Lists (form : Form V) (messages : Dictionary String) (value : V) :
    Prop :=
  ∃ pairs : List (String × String),
    form.IsTable (pairs.map (fun pair => (pair.1, form.text pair.2))) value ∧
    ∀ name template, messages.get? name = some template ↔
      LastSuch (fun pair => pair.1 = name) pairs (name, template)

/-- No entry stands under the name of a member. -/
def Lacks (entries : List (String × V)) (member : Member) : Prop :=
  ∀ entry ∈ entries, entry.1 ≠ member.text

/-- A part of settings is shown under the name of a member: its entry stands
there exactly once, or there is none and the part is standard. -/
def Shows (entries : List (String × V)) (member : Member)
    (isWritten : V → Prop) (isStandard : Prop) : Prop :=
  (∃ value, entries.filter (·.1 = member.text) = [(member.text, value)] ∧
    isWritten value) ∨
  Lacks entries member ∧ isStandard

/-- Entries that settings are written with, among any others. -/
structure Form.Describes (form : Form V) (entries : List (String × V))
    (settings : Settings) : Prop where
  presence : Shows entries .presence (· = form.text settings.presence.text)
    (settings.presence = standard.presence)
  logFailures : Shows entries .logFailures (· = form.flag settings.logFailures)
    (settings.logFailures = standard.logFailures)
  messages : Shows entries .messages (form.Lists settings.messages)
    (settings.messages = standard.messages)

/-- A document of a format in which settings are written. -/
def Written (settings : Settings) : DocumentFormat → String → Prop
  | .json, document => ∃ members,
      Json.read? document = some (.ofMembers members) ∧
        jsonForm.Describes members settings
  | .toml, document => ∃ entries, Toml.read? document = some entries ∧
      tomlForm.Describes entries settings

/-- How entries of a form are read into a draft: unknown ones are passed over,
and a known one is kept when the draft does not hold its part yet. -/
structure Form.ReadBy (form : Form V)
    (read : Draft → List (String × V) → Option Draft) : Prop where
  nil : ∀ draft, read draft [] = some draft
  unknown : ∀ draft name value rest, Member.ofText? name = none →
    read draft ((name, value) :: rest) = read draft rest
  presence : ∀ (draft : Draft) (presence : Presence) rest,
    draft.presence? = none →
    read draft ((Member.presence.text, form.text presence.text) :: rest) =
      read { draft with presence? := some presence } rest
  logFailures : ∀ (draft : Draft) enabled rest, draft.logFailures? = none →
    read draft ((Member.logFailures.text, form.flag enabled) :: rest) =
      read { draft with logFailures? := some enabled } rest
  messages : ∀ (draft : Draft) messages value rest, draft.messages? = none →
    form.Lists messages value →
    read draft ((Member.messages.text, value) :: rest) =
      read { draft with messages? := some messages } rest

theorem ofPairs_eq {messages : Dictionary String}
    {pairs : List (String × String)}
    (listed : ∀ name template, messages.get? name = some template ↔
      LastSuch (fun pair => pair.1 = name) pairs (name, template)) :
    Dictionary.ofPairs pairs = messages := by
  apply Dictionary.ext_get?
  intro name
  apply Option.ext
  intro template
  rw [Dictionary.get?_ofPairs_eq_some_iff, listed]

theorem templatesOfJson?_of_lists {messages : Dictionary String} {value : Json}
    (lists : jsonForm.Lists messages value) :
    templatesOfJson? value = some messages := by
  obtain ⟨pairs, rfl, listed⟩ := lists
  have reads : ∀ pair : String × String,
      namedText? (some pair.1, Json.ofString pair.2) = some pair :=
    fun _ => rfl
  rw [← ofPairs_eq listed, Json.ofMembers, List.map_map]
  exact congrArg (Option.map Dictionary.ofPairs)
    (Json.mapM_map_of_reads reads pairs)

theorem templatesOfToml?_of_lists {messages : Dictionary String} {value : Toml}
    (lists : tomlForm.Lists messages value) :
    templatesOfToml? value = some messages := by
  obtain ⟨pairs, ⟨origin, rfl⟩, listed⟩ := lists
  have reads : ∀ pair : String × String,
      namedTomlText? (pair.1, Toml.text pair.2) = some pair :=
    fun _ => rfl
  rw [← ofPairs_eq listed]
  exact congrArg (Option.map Dictionary.ofPairs)
    (Json.mapM_map_of_reads reads pairs)

def draftOfNamed? (draft : Draft) (members : List (String × Json)) :
    Option Draft :=
  draftOfMembers? draft
    (members.map (fun member => (some member.1, member.2)))

theorem draftOfNamed?_known {draft next : Draft} {member : Member}
    {value : Json} (added : draft.addJson? member value = some next)
    (rest : List (String × Json)) :
    draftOfNamed? draft ((member.text, value) :: rest) =
      draftOfNamed? next rest := by
  simp only [draftOfNamed?, List.map_cons, draftOfMembers?,
    Member.ofText?_text, added, Option.bind_some]

theorem draftOfEntries?_known {draft next : Draft} {member : Member}
    {value : Toml} (added : draft.addToml? member value = some next)
    (rest : Toml.Entries) :
    draftOfEntries? draft ((member.text, value) :: rest) =
      draftOfEntries? next rest := by
  simp only [draftOfEntries?, Member.ofText?_text, added, Option.bind_some]

theorem jsonForm_readBy : jsonForm.ReadBy draftOfNamed? where
  nil _ := rfl
  unknown draft name value rest unread := by
    simp only [draftOfNamed?, List.map_cons, draftOfMembers?, unread]
  presence draft presence rest unset := by
    apply draftOfNamed?_known
    simp [Draft.addJson?, unset, jsonForm, Json.ofString, presenceOfJson?,
      Presence.ofText?_text]
  logFailures draft enabled rest unset := by
    apply draftOfNamed?_known
    simp [Draft.addJson?, unset, jsonForm, Json.truth?]
  messages draft messages value rest unset lists := by
    apply draftOfNamed?_known
    simp [Draft.addJson?, unset, templatesOfJson?_of_lists lists]

theorem tomlForm_readBy : tomlForm.ReadBy draftOfEntries? where
  nil _ := rfl
  unknown draft name value rest unread := by
    simp only [draftOfEntries?, unread]
  presence draft presence rest unset := by
    apply draftOfEntries?_known
    simp [Draft.addToml?, unset, tomlForm, presenceOfToml?,
      Presence.ofText?_text]
  logFailures draft enabled rest unset := by
    apply draftOfEntries?_known
    simp [Draft.addToml?, unset, tomlForm]
  messages draft messages value rest unset lists := by
    apply draftOfEntries?_known
    simp [Draft.addToml?, unset, templatesOfToml?_of_lists lists]

/-- What is still to come for a part of settings: nothing when the draft holds
the part already, and otherwise what shows it. -/
def Remains {α : Type} (held? : Option α) (entries : List (String × V))
    (member : Member) (isWritten : V → Prop) (part standard : α) : Prop :=
  held? = some part ∧ Lacks entries member ∨
    held? = none ∧ Shows entries member isWritten (part = standard)

section Remaining

variable {α : Type} {held? : Option α} {entries rest : List (String × V)}
  {member : Member} {isWritten : V → Prop} {part standard : α} {name : String}
  {value : V}

theorem getD_of_remains_nil
    (remains : Remains held? [] member isWritten part standard) :
    held?.getD standard = part := by
  rcases remains with ⟨rfl, _⟩ | ⟨rfl, shown⟩
  · rfl
  · rcases shown with ⟨value, once, _⟩ | ⟨_, rfl⟩
    · simp at once
    · rfl

theorem remains_of_other (other : name ≠ member.text)
    (remains : Remains held? ((name, value) :: rest) member isWritten part
      standard) :
    Remains held? rest member isWritten part standard := by
  have inRest : Lacks ((name, value) :: rest) member → Lacks rest member :=
    fun lacks => (List.forall_mem_cons.mp lacks).2
  rcases remains with ⟨held, lacks⟩ | ⟨unset, shown⟩
  · exact .inl ⟨held, inRest lacks⟩
  · refine .inr ⟨unset, ?_⟩
    rcases shown with ⟨found, once, written⟩ | ⟨lacks, isStandard⟩
    · exact .inl ⟨found, by simpa [other] using once, written⟩
    · exact .inr ⟨inRest lacks, isStandard⟩

theorem remains_of_here
    (remains : Remains held? ((member.text, value) :: rest) member isWritten
      part standard) :
    held? = none ∧ isWritten value ∧ Lacks rest member := by
  have present : ¬ Lacks ((member.text, value) :: rest) member :=
    fun lacks => lacks _ List.mem_cons_self rfl
  rcases remains with ⟨_, lacks⟩ | ⟨unset, shown⟩
  · exact absurd lacks present
  · rcases shown with ⟨found, once, written⟩ | ⟨lacks, _⟩
    · rw [List.filter_cons_of_pos (by simp), List.cons.injEq,
        Prod.mk.injEq, List.filter_eq_nil_iff] at once
      obtain ⟨⟨_, rfl⟩, absent⟩ := once
      exact ⟨unset, written, by simpa [Lacks] using absent⟩
    · exact absurd lacks present

end Remaining

structure Form.Completes (form : Form V) (draft : Draft)
    (entries : List (String × V)) (settings : Settings) : Prop where
  presence : Remains draft.presence? entries .presence
    (· = form.text settings.presence.text) settings.presence standard.presence
  logFailures : Remains draft.logFailures? entries .logFailures
    (· = form.flag settings.logFailures) settings.logFailures
    standard.logFailures
  messages : Remains draft.messages? entries .messages
    (form.Lists settings.messages) settings.messages standard.messages

section Reading

variable {form : Form V} {read : Draft → List (String × V) → Option Draft}
  {draft : Draft} {entries : List (String × V)} {settings : Settings}

theorem Form.Describes.completes (describes : form.Describes entries settings) :
    form.Completes .blank entries settings where
  presence := .inr ⟨rfl, describes.presence⟩
  logFailures := .inr ⟨rfl, describes.logFailures⟩
  messages := .inr ⟨rfl, describes.messages⟩

theorem Form.ReadBy.exists_draft (readBy : form.ReadBy read)
    (completes : form.Completes draft entries settings) :
    ∃ final, read draft entries = some final ∧ final.settings = settings := by
  induction entries generalizing draft with
  | nil =>
      refine ⟨draft, readBy.nil draft, ?_⟩
      rw [Draft.settings, getD_of_remains_nil completes.presence,
        getD_of_remains_nil completes.logFailures,
        getD_of_remains_nil completes.messages]
  | cons entry rest induction =>
      obtain ⟨name, value⟩ := entry
      cases found : Member.ofText? name with
      | none =>
          have other : ∀ member : Member, name ≠ member.text := by
            rintro member rfl
            rw [Member.ofText?_text] at found
            contradiction
          rw [readBy.unknown draft name value rest found]
          exact induction ⟨remains_of_other (other _) completes.presence,
            remains_of_other (other _) completes.logFailures,
            remains_of_other (other _) completes.messages⟩
      | some member =>
          obtain rfl : member.text = name := by
            simpa using List.find?_some found
          cases member with
          | presence =>
              obtain ⟨unset, rfl, lacks⟩ := remains_of_here completes.presence
              rw [readBy.presence draft settings.presence rest unset]
              exact induction ⟨.inl ⟨rfl, lacks⟩,
                remains_of_other (by decide) completes.logFailures,
                remains_of_other (by decide) completes.messages⟩
          | logFailures =>
              obtain ⟨unset, rfl, lacks⟩ :=
                remains_of_here completes.logFailures
              rw [readBy.logFailures draft settings.logFailures rest unset]
              exact induction
                ⟨remains_of_other (by decide) completes.presence,
                  .inl ⟨rfl, lacks⟩,
                  remains_of_other (by decide) completes.messages⟩
          | messages =>
              obtain ⟨unset, lists, lacks⟩ := remains_of_here completes.messages
              rw [readBy.messages draft settings.messages value rest unset
                lists]
              exact induction
                ⟨remains_of_other (by decide) completes.presence,
                  remains_of_other (by decide) completes.logFailures,
                  .inl ⟨rfl, lacks⟩⟩

theorem described?_of_written {format : DocumentFormat} {document : String}
    (written : Written settings format document) :
    described? format document = some settings := by
  cases format with
  | json =>
      obtain ⟨members, parsed, describes⟩ := written
      obtain ⟨final, drafted, rfl⟩ :=
        jsonForm_readBy.exists_draft describes.completes
      rw [described?, parsed, Option.bind_some]
      exact congrArg (Option.map Draft.settings) drafted
  | toml =>
      obtain ⟨entries, parsed, describes⟩ := written
      obtain ⟨final, drafted, rfl⟩ :=
        tomlForm_readBy.exists_draft describes.completes
      rw [described?, parsed, Option.bind_some]
      exact congrArg (Option.map Draft.settings) drafted

theorem ofDocument_of_written (usable : settings.Usable)
    {format : DocumentFormat} {document : String}
    (written : Written settings format document) :
    ofDocument format document = .ok settings := by
  rw [ofDocument_eq, described?_of_written written]
  exact checked_eq_ok_iff.mpr ⟨usable, rfl⟩

end Reading

end Documents

section Files

variable {path extension document : String} {content : FileContent}
  {format : DocumentFormat}

def suffix : DocumentFormat → String
  | .json => "json"
  | .toml => "toml"

theorem ofExtension?_eq_some_iff :
    DocumentFormat.ofExtension? extension = some format ↔
      Text.lowered extension = suffix format := by
  unfold DocumentFormat.ofExtension?
  generalize Text.lowered extension = small
  cases format <;> split <;> simp_all [suffix, eq_comm]

theorem text_of_bytes :
    (FileContent.bytes document.toUTF8).text = .ok document := by
  have valid : document.toUTF8.IsValidUTF8 := document.isValidUTF8
  rw [FileContent.text, String.fromUTF8?, dif_pos valid]
  rfl

theorem ofFile_of_extension (has : HasExtension path extension)
    (named : Text.lowered extension = suffix format) :
    ofFile path (.bytes document.toUTF8) = ofDocument format document := by
  have chosen : formatOfPath path = .ok format := by
    simp only [formatOfPath, extension?_eq_some_iff.mpr has,
      ofExtension?_eq_some_iff.mpr named]
  exact ofFile_eq chosen text_of_bytes

theorem ofFile_of_no_extension
    (without : ∀ extension, ¬ HasExtension path extension) :
    ofFile path content = .error .noExtension := by
  have none : extension? path = none := by
    rw [Option.eq_none_iff_forall_ne_some]
    intro extension found
    exact without extension (extension?_eq_some_iff.mp found)
  simp [ofFile, formatOfPath, none, bind, Except.bind]

theorem ofFile_of_other_extension (has : HasExtension path extension)
    (other : ∀ format, Text.lowered extension ≠ suffix format) :
    ofFile path content = .error (.unsupportedFormat extension) := by
  have none : DocumentFormat.ofExtension? extension = none := by
    rw [Option.eq_none_iff_forall_ne_some]
    intro format found
    exact other format (ofExtension?_eq_some_iff.mp found)
  simp [ofFile, formatOfPath, extension?_eq_some_iff.mpr has, none, bind,
    Except.bind]

end Files

/-- Settings in documents.  A document of either format in which settings are
written gives these settings.  A file is read as what it holds is read when its
extension names the format, in letters of any case; without an extension, or
with another one, it is refused whatever is found under its path. -/
theorem settings_of_documents :
    (∀ settings : Settings, settings.Usable → ∀ format document,
      Written settings format document →
        ofDocument format document = .ok settings) ∧
    (∀ path extension format, HasExtension path extension →
      Text.lowered extension = suffix format → ∀ document : String,
        ofFile path (.bytes document.toUTF8) = ofDocument format document) ∧
    (∀ path, (∀ extension, ¬ HasExtension path extension) →
      ∀ content, ofFile path content = .error .noExtension) ∧
    (∀ path extension, HasExtension path extension →
      (∀ format, Text.lowered extension ≠ suffix format) →
      ∀ content, ofFile path content = .error (.unsupportedFormat extension)) :=
  ⟨fun _ usable _ _ => ofDocument_of_written usable,
    fun _ _ _ has named _ => ofFile_of_extension has named,
    fun _ without _ => ofFile_of_no_extension without,
    fun _ _ has other _ => ofFile_of_other_extension has other⟩

/-- Whether a table holds an empty list and one empty template, under the names
that the document below gives them. -/
def isExampleTable : Toml.Entries → Bool
  | [(other, .list []), (table, .table .declared [(name, .text template)])] =>
      other == "y" && table == "messages" && name == "email" && template == ""
  | _ => false

theorem eq_of_isExampleTable {entries : Toml.Entries}
    (isExample : isExampleTable entries = true) :
    entries = [("y", .list []),
      ("messages", .table .declared [("email", .text "")])] := by
  unfold isExampleTable at isExample
  split at isExample
  · simpa [and_assoc] using isExample
  · contradiction

/-- The same settings in both formats, in different orders and among unknown
entries, once with a standard part and once without it, and also from a file;
two paths that no format is known for. -/
theorem settings_of_documents_both_formats :
    let json :=
      "\x7b\"messages\":\x7b\"email\":\"\"\x7d,\"x\":[],\"log_failures\":true\x7d"
    let toml := "y=[]\n[messages]\nemail=''"
    let settings : Settings :=
      ⟨.positive, true, Dictionary.ofPairs [("email", "")]⟩
    ofJsonText json = .ok settings ∧
      ofTomlText toml = .ok settings ∧
      ofFile "a.d/b.Toml" (.bytes toml.toUTF8) = .ok settings ∧
      ofFile ".json" .missing = .error .noExtension ∧
      ofFile "a.yaml" .directory = .error (.unsupportedFormat "yaml") := by
  intro json toml settings
  obtain ⟨documents, files, without, others⟩ := settings_of_documents
  have usable : settings.Usable := by
    have known : settings.messages.keys = ["email"] := by decide +kernel
    intro name member
    rw [known, List.mem_singleton] at member
    exact ⟨.email, member.symm⟩
  have listed : ∀ name template, settings.messages.get? name = some template ↔
      LastSuch (fun pair => pair.1 = name) [("email", "")] (name, template) :=
    fun _ _ => Dictionary.get?_ofPairs_eq_some_iff
  have jsonWritten : Written settings .json json := by
    let members : List (String × Json) :=
      [("messages", .ofMembers [("email", .ofString "")]), ("x", .list []),
        ("log_failures", .flag true)]
    have spelled : json = (Json.ofMembers members).write := by decide +kernel
    have parsed : Json.read? json = some (.ofMembers members) := by
      rw [spelled]
      exact Json.read?_write (by decide +kernel)
    exact ⟨members, parsed, .inr ⟨by simp [members, Lacks, Member.text], rfl⟩,
      .inl ⟨_, rfl, rfl⟩, .inl ⟨_, rfl, [("email", "")], rfl, listed⟩⟩
  have tomlWritten : Written settings .toml toml := by
    obtain ⟨entries, parsed, isExample⟩ :=
      (Option.any_eq_true isExampleTable (Toml.read? toml)).mp
        (by decide +kernel)
    obtain rfl := eq_of_isExampleTable isExample
    exact ⟨_, parsed, .inr ⟨by simp [Lacks, Member.text], rfl⟩,
      .inr ⟨by simp [Lacks, Member.text], rfl⟩,
      .inl ⟨_, rfl, [("email", "")], ⟨.declared, rfl⟩, listed⟩⟩
  have tomlLoaded := documents settings usable .toml toml tomlWritten
  refine ⟨documents settings usable .json json jsonWritten, tomlLoaded, ?_, ?_,
    ?_⟩
  · have has : HasExtension "a.d/b.Toml" "Toml" :=
      extension?_eq_some_iff.mp (by decide +kernel)
    rw [files _ _ .toml has (by decide +kernel), tomlLoaded]
  · apply without
    intro extension has
    have none : extension? ".json" = none := by decide +kernel
    rw [extension?_eq_some_iff.mpr has] at none
    contradiction
  · apply others _ _ (extension?_eq_some_iff.mp (by decide +kernel))
    intro format
    cases format <;> decide +kernel

end Settings

end FieldCheck
