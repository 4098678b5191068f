import FieldCheck.Proofs.DictionaryReading
import FieldCheck.Proofs.JsonRoundTrip
import FieldCheck.Proofs.ReportRecording
import Mathlib.Data.List.Dedup

/-!
# What a report shows

A report is the list of the first messages that were recorded, one for each
field, in the order of the keys.  `FirstMessages` says what this list is
without a report; every view of the report is computed from it, and the two
JSON forms of the report are read back to the report itself.
-/

namespace FieldCheck

namespace Json

def member? (json : Json) (name : String) : Option Json :=
  match json with
  | .object members => members.lookup (some name)
  | _ => none

def namedValue? {α : Type} (read : Json → Option α)
    (member : Option String × Json) : Option (String × α) := do
  let name ← member.1
  let value ← read member.2
  return (name, value)

def namedValues? {α : Type} (read : Json → Option α) :
    Json → Option (List (String × α))
  | .object members => members.mapM (namedValue? read)
  | _ => none

theorem mapM_map_of_reads {α β : Type} {read : β → Option α} {write : α → β}
    (reads : ∀ value, read (write value) = some value) (values : List α) :
    (values.map write).mapM read = some values := by
  induction values with
  | nil => rfl
  | cons value rest induction =>
      rw [List.map_cons, List.mapM_cons, reads, induction]
      rfl

theorem namedValues?_ofMembers {α : Type} (read : Json → Option α)
    (write : α → Json) (reads : ∀ value, read (write value) = some value)
    (entries : List (String × α)) :
    (ofMembers (entries.map (fun entry => (entry.1, write entry.2)))).namedValues?
      read = some entries := by
  rw [ofMembers, namedValues?, List.map_map]
  apply mapM_map_of_reads
  intro entry
  simp [namedValue?, reads]

end Json

def Message.ofJson? (renderedName templateName : String) (json : Json) :
    Option Message := do
  let rendered ← (json.member? renderedName).bind Json.string?
  let template ← (json.member? templateName).bind Json.string?
  return ⟨rendered, template⟩

namespace Report

/-- Record failures one after the other: whether each was the first one of its
field, and the report in the end. -/
def recordEach (report : Report) :
    List (String × Message) → List Bool × Report
  | [] => ([], report)
  | (field, message) :: rest =>
      let (answer, next) := report.record? field message
      let (answers, last) := next.recordEach rest
      (answer :: answers, last)

def ofJson? (json : Json) : Option Report := do
  let errors ← json.member? "errors"
  let entries ← errors.namedValues? (Message.ofJson? "message" "format")
  return ⟨Dictionary.ofPairs entries⟩

def ofSerialized? (json : Json) : Option Report := do
  let entries ← json.namedValues? (Message.ofJson? "rendered" "template")
  return ⟨Dictionary.ofPairs entries⟩

/-- The first messages of the fields that recorded failures name, in the order
of the keys. -/
structure FirstMessages (failures rows : List (String × Message)) : Prop where
  ordered : rows.Pairwise (fun left right =>
    Text.encoded left.1 < Text.encoded right.1)
  mem_iff : ∀ row, row ∈ rows ↔
    FirstSuch (fun failure => failure.1 = row.1) failures row

section Recording

variable {report : Report} {failures rows before after : List (String × Message)}
  {field : String} {message : Message}

theorem recordEach_cons (failure : String × Message) :
    report.recordEach (failure :: failures) =
      ((report.record failure.1 failure.2).recordEach failures).map
        ((!report.contains failure.1) :: ·) id :=
  rfl

@[simp] theorem report_recordEach :
    (report.recordEach failures).2 = report.recordAll failures := by
  induction failures generalizing report with
  | nil => rfl
  | cons failure rest induction =>
      rw [recordEach_cons, Prod.map_snd, induction]
      rfl

@[simp] theorem recordAll_cons (failure : String × Message) :
    report.recordAll (failure :: failures) =
      (report.record failure.1 failure.2).recordAll failures :=
  rfl

theorem recordAll_append :
    report.recordAll (before ++ after) =
      (report.recordAll before).recordAll after :=
  List.foldl_append

/-- Each answer tells whether the field had no message before. -/
theorem answers_recordEach :
    (report.recordEach (before ++ (field, message) :: after)).1[before.length]? =
      some (!(report.recordAll before).contains field) := by
  induction before generalizing report with
  | nil => rfl
  | cons failure rest induction =>
      rw [List.cons_append, recordEach_cons, Prod.map_fst, List.length_cons,
        List.getElem?_cons_succ, induction]
      rfl

theorem contains_recordAll_empty :
    (empty.recordAll failures).contains field = true ↔
      field ∈ failures.map Prod.fst := by
  rw [contains_iff]
  simp only [get?_recordAll, get?_empty, Option.none_or,
    lookup_eq_some_iff_firstSuch, List.mem_map]
  constructor
  · intro described
    obtain ⟨message, first⟩ := described
    exact ⟨(field, message), first.mem, rfl⟩
  · intro described
    obtain ⟨failure, first⟩ := exists_firstSuch_iff.mpr described
    obtain rfl : failure.1 = field := first.has
    exact ⟨failure.2, first⟩

theorem mem_fields_iff :
    field ∈ report.fields ↔ report.contains field = true := by
  rw [contains_iff]
  exact Dictionary.mem_keys_iff

/-- There are as many entries as different fields. -/
theorem size_recordAll_empty :
    (empty.recordAll failures).size = (failures.map Prod.fst).dedup.length := by
  have sameFields : (empty.recordAll failures).fields.Perm
      (failures.map Prod.fst).dedup := by
    apply (List.perm_ext_iff_of_nodup (Dictionary.nodup_keys _)
      (List.nodup_dedup _)).mpr
    intro field
    rw [List.mem_dedup, ← contains_recordAll_empty]
    exact mem_fields_iff
  rw [← sameFields.length_eq]
  exact (List.length_map _).symm

theorem isEmpty_recordAll_empty :
    (empty.recordAll failures).isEmpty = true ↔ failures = [] := by
  rw [isEmpty_iff]
  simp only [get?_recordAll, get?_empty, Option.none_or]
  cases failures with
  | nil => simp
  | cons failure rest =>
      simp only [reduceCtorEq, iff_false, not_forall]
      exact ⟨failure.1, by simp⟩

theorem firstMessages_entries :
    FirstMessages failures (empty.recordAll failures).entries where
  ordered := by
    apply (empty.recordAll failures).messages.sorted.imp
    intro left right earlier
    exact Text.before_iff_encoded_lt.mp earlier
  mem_iff := by
    intro row
    obtain ⟨field, message⟩ := row
    rw [entries, Dictionary.mem_entries_iff, ← lookup_eq_some_iff_firstSuch]
    show (empty.recordAll failures).get? field = some message ↔ _
    rw [get?_recordAll, get?_empty, Option.none_or]

theorem record_comm {first second : String × Message}
    (different : first.1 ≠ second.1) :
    (report.record first.1 first.2).record second.1 second.2 =
      (report.record second.1 second.2).record first.1 first.2 := by
  apply ext_get?
  intro queried
  simp only [get?_record, if_neg different, if_neg (Ne.symm different)]
  by_cases isFirst : queried = first.1
  · simp [isFirst, different]
  · simp [isFirst]

end Recording

section Decoding

variable (report : Report)

theorem ofJson?_toJson : ofJson? report.toJson = some report := by
  have entriesRead := Json.namedValues?_ofMembers
    (Message.ofJson? "message" "format")
    (fun message : Message => .ofMembers
      [("message", .ofString message.rendered),
        ("format", .ofString message.template)])
    (fun _ => rfl) report.entries
  have errors : report.toJson.member? "errors" =
      some (.ofMembers (report.entries.map (fun entry => (entry.1, .ofMembers
        [("message", .ofString entry.2.rendered),
          ("format", .ofString entry.2.template)])))) := rfl
  simp only [ofJson?, errors, Option.bind_eq_bind, Option.bind_some,
    entriesRead, Option.pure_def]
  rw [entries, Dictionary.ofPairs_entries]

theorem ofSerialized?_serialized :
    ofSerialized? report.serialized = some report := by
  have entriesRead := Json.namedValues?_ofMembers
    (Message.ofJson? "rendered" "template") messageJson
    (fun _ => rfl) report.entries
  simp only [ofSerialized?, serialized, entriesRead, Option.bind_eq_bind,
    Option.bind_some, Option.pure_def]
  rw [entries, Dictionary.ofPairs_entries]

theorem isNumberFree_toJson : report.toJson.isNumberFree = true := by
  simp only [toJson, Json.isNumberFree_ofMembers, List.forall_mem_map,
    List.forall_mem_cons, List.not_mem_nil, IsEmpty.forall_iff, implies_true,
    and_true]
  exact fun _ _ => ⟨rfl, rfl⟩

theorem isNumberFree_serialized : report.serialized.isNumberFree = true := by
  simp only [serialized, messageJson, Json.isNumberFree_ofMembers,
    List.forall_mem_map, List.forall_mem_cons, List.not_mem_nil,
    IsEmpty.forall_iff, implies_true, and_true]
  exact fun _ _ => ⟨rfl, rfl⟩

end Decoding

/-- A report holds the first message recorded for each field, and nothing else.
An answer is positive exactly when no earlier failure names the field.  Every
view goes through the fields once, in the order of the bytes of their keys, and
the JSON forms are read back to the same report, from the value or from its
text.  Two neighbouring failures of different fields may change places. -/
theorem report_of_recordings (failures : List (String × Message)) :
    let answers := (empty.recordEach failures).1
    let report := (empty.recordEach failures).2
    (∀ before field message after,
      failures = before ++ (field, message) :: after →
        answers[before.length]? = some (decide (field ∉ before.map Prod.fst))) ∧
    (∀ field message, report.get? field = some message ↔
      FirstSuch (fun failure => failure.1 = field) failures (field, message)) ∧
    (∀ field, report.get? field = none ↔ field ∉ failures.map Prod.fst) ∧
    (∀ field, report.contains field = true ↔ field ∈ failures.map Prod.fst) ∧
    report.size = (failures.map Prod.fst).dedup.length ∧
    (report.isEmpty = true ↔ failures = []) ∧
    (∃ rows, FirstMessages failures rows ∧
      report.entries = rows ∧
      report.fields = rows.map Prod.fst ∧
      report.display = String.join (rows.map (fun row =>
        row.1 ++ ": " ++ row.2.rendered ++ "\n"))) ∧
    (ofJson? report.toJson = some report ∧
      (Json.read? report.toJson.write).bind ofJson? = some report) ∧
    (ofSerialized? report.serialized = some report ∧
      (Json.read? report.serialized.write).bind ofSerialized? =
        some report) ∧
    (∀ before first second after,
      failures = before ++ first :: second :: after → first.1 ≠ second.1 →
        (empty.recordEach (before ++ second :: first :: after)).2 = report) := by
  intro answers report
  have isReport : report = empty.recordAll failures := report_recordEach
  have readings : ∀ field message, report.get? field = some message ↔
      FirstSuch (fun failure => failure.1 = field) failures
        (field, message) := by
    intro field message
    rw [isReport, get?_recordAll, get?_empty, Option.none_or,
      lookup_eq_some_iff_firstSuch]
  have named : ∀ field, report.contains field = true ↔
      field ∈ failures.map Prod.fst := by
    intro field
    rw [isReport, contains_recordAll_empty]
  refine ⟨?_, readings, ?_, named, ?_, ?_, ⟨_, firstMessages_entries, ?_⟩, ?_,
    ?_, ?_⟩
  · intro before field message after split
    have answer : answers[before.length]? =
        some (!(empty.recordAll before).contains field) := by
      simp only [answers, split]
      exact answers_recordEach
    rw [answer, Option.some.injEq, Bool.eq_iff_iff, Bool.not_eq_true',
      decide_eq_true_eq, ← Bool.not_eq_true, contains_recordAll_empty]
  · intro field
    rw [← named field, contains_iff, Option.eq_none_iff_forall_ne_some]
    push Not
    rfl
  · rw [isReport, size_recordAll_empty]
  · rw [isReport, isEmpty_recordAll_empty]
  · rw [isReport]
    exact ⟨rfl, rfl, rfl⟩
  · refine ⟨ofJson?_toJson report, ?_⟩
    rw [Json.read?_write (isNumberFree_toJson report)]
    exact ofJson?_toJson report
  · refine ⟨ofSerialized?_serialized report, ?_⟩
    rw [Json.read?_write (isNumberFree_serialized report)]
    exact ofSerialized?_serialized report
  · intro before first second after split different
    simp only [isReport, split, report_recordEach, recordAll_append,
      recordAll_cons, record_comm different]

/-- The third failure repeats the field of the first one and is refused; the
first two change places without a trace. -/
theorem report_of_recordings_repeated_field :
    let first : String × Message := ("username", ⟨"too short", "short"⟩)
    let second : String × Message := ("email", ⟨"invalid", "bad"⟩)
    let third : String × Message := ("username", ⟨"too long", "long"⟩)
    (empty.recordEach [first, second, third]).1[2]? = some false ∧
      first.1 ≠ second.1 ∧
      (empty.recordEach [second, first, third]).2 =
        (empty.recordEach [first, second, third]).2 := by
  intro first second third
  obtain ⟨answered, _, _, _, _, _, _, _, _, exchanged⟩ :=
    report_of_recordings [first, second, third]
  have different : first.1 ≠ second.1 := by decide
  exact ⟨answered [first, second] "username" _ [] rfl, different,
    exchanged [] first second [third] rfl different⟩

end Report

end FieldCheck
