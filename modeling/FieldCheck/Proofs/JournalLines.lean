import FieldCheck.Proofs.JournalThreshold
import FieldCheck.Proofs.JsonRoundTrip

/-!
# The lines of a JSON journal

An entry that is laid out as JSON takes one line, whatever its texts hold: its
control characters are all escaped, and the only one of the line is the newline
at its end.  No text of an entry can therefore begin a line of its own, and the
entries of a whole journal are read back line by line.
-/

namespace FieldCheck

namespace Json

def Printed (text : List Char) : Prop :=
  ∀ character ∈ text, 0x20 ≤ character.toNat

instance (text : List Char) : Decidable (Printed text) :=
  List.decidableBAll _ _

section Printing

variable {character : Char} {first rest : List Char} {parts : List (List Char)}

@[simp] theorem printed_nil : Printed [] :=
  List.forall_mem_nil _

@[simp] theorem printed_cons :
    Printed (character :: rest) ↔ 0x20 ≤ character.toNat ∧ Printed rest :=
  List.forall_mem_cons

@[simp] theorem printed_append :
    Printed (first ++ rest) ↔ Printed first ∧ Printed rest :=
  List.forall_mem_append

theorem le_toNat_hexDigit {digit : Nat} (small : digit < 16) :
    0x20 ≤ (hexDigit digit).toNat := by
  decide +revert

theorem printed_escaped (character : Char) : Printed (escaped character) := by
  have spelled := spelled_escaped character
  generalize escaped character = written at spelled ⊢
  cases spelled with
  | letter _ _ printed => simp [printed]
  | code control =>
      have high : 0x20 ≤ (hexDigit (character.toNat / 16)).toNat :=
        le_toNat_hexDigit (by omega)
      have low : 0x20 ≤ (hexDigit (character.toNat % 16)).toNat :=
        le_toNat_hexDigit (by omega)
      simp [high, low]
  | self _ _ printed => simpa using printed

theorem printed_quoted (content : String) : Printed (quoted content) := by
  have body : Printed (content.toList.flatMap escaped) := by
    intro character member
    obtain ⟨source, _, inside⟩ := List.mem_flatMap.mp member
    exact printed_escaped source character inside
  simp [quoted, body]

theorem printed_quoted? (content? : Option String) :
    Printed (quoted? content?) := by
  cases content? with
  | none => decide
  | some content => exact printed_quoted content

theorem printed_separated (printed : ∀ part ∈ parts, Printed part) :
    Printed (separated parts) := by
  induction parts using separated.induct with
  | case1 => exact printed_nil
  | case2 only => exact printed only (List.mem_singleton_self only)
  | case3 first rest _ induction =>
      obtain ⟨firstPrinted, restPrinted⟩ := List.forall_mem_cons.mp printed
      simp [separated, firstPrinted, induction restPrinted]

end Printing

mutual

theorem printed_characters (json : Json) (free : json.isNumberFree = true) :
    Printed json.characters := by
  cases json with
  | null | text => simp [characters, printed_quoted?]
  | flag truth => cases truth <;> simp [characters]
  | number literal => contradiction
  | list items =>
      have body := printed_separated (printed_itemCharacters items free)
      simp [characters, body]
  | object members =>
      have body := printed_separated (printed_memberCharacters members free)
      simp [characters, body]

theorem printed_itemCharacters (items : List Json)
    (free : itemsNumberFree items = true) :
    ∀ part ∈ itemCharacters items, Printed part := by
  cases items with
  | nil => exact List.forall_mem_nil _
  | cons item items =>
      obtain ⟨itemFree, itemsFree⟩ := Bool.and_eq_true_iff.mp free
      exact List.forall_mem_cons.mpr ⟨printed_characters item itemFree,
        printed_itemCharacters items itemsFree⟩

theorem printed_memberCharacters (members : List (Option String × Json))
    (free : membersNumberFree members = true) :
    ∀ part ∈ memberCharacters members, Printed part := by
  cases members with
  | nil => exact List.forall_mem_nil _
  | cons member members =>
      obtain ⟨name, value⟩ := member
      obtain ⟨valueFree, membersFree⟩ := Bool.and_eq_true_iff.mp free
      have valuePrinted := printed_characters value valueFree
      have first : Printed (quoted? name ++ ':' :: value.characters) := by
        simp [printed_quoted?, valuePrinted]
      exact List.forall_mem_cons.mpr
        ⟨first, printed_memberCharacters members membersFree⟩

end

end Json

namespace Text

/-- The lines of a text.  Behind the last newline there is one more, which is
empty if the text ends there. -/
def lines (text : String) : List String :=
  (text.toList.splitOn '\n').map String.ofList

theorem lines_newline {line : String} (unbroken : '\n' ∉ line.toList)
    (rest : String) : lines (line ++ "\n" ++ rest) = line :: lines rest := by
  have whole : (line ++ "\n" ++ rest).toList =
      line.toList ++ '\n' :: rest.toList := by
    simp
  have first : line.toList.splitOn '\n' = [line.toList] :=
    List.splitOn_eq_singleton unbroken
  rw [lines, whole, List.splitOn_append_cons_self, first]
  simp [lines]

end Text

namespace Journal

/-- A line holds an entry: it ends the text of the entry with the one newline
there, and an object is read from it that gives the entry back. -/
structure Entry.HeldBy (entry : Entry) (time line : String) : Prop where
  ended : entry.text time = line ++ "\n"
  printed : Json.Printed line.toList
  read : Json.read? line = some (.ofMembers
    [("timestamp", .ofString time), ("level", .ofString entry.level.text),
      ("target", .ofString entry.target),
      ("message", .ofString entry.message)])

def output (stamped : List (Entry × String)) : String :=
  String.join (stamped.map (fun item => item.1.text item.2))

/-- The entries that are written during a history, in order. -/
def writtenAll (journal : Journal) : List Call → List Entry
  | [] => []
  | call :: rest =>
      written call.1 journal call.2 ++
        (journal.after call.1 call.2).writtenAll rest

section Lines

variable {entry : Entry} {time line : String}

theorem Entry.isNumberFree_toJson (entry : Entry) (time : String) :
    (entry.toJson time).isNumberFree = true := by
  simp [Entry.toJson, Json.isNumberFree_ofMembers, Json.ofString,
    Json.isNumberFree]

theorem Entry.exists_heldBy (laidOut : entry.layout = .json) (time : String) :
    ∃ line, entry.HeldBy time line := by
  have free := Entry.isNumberFree_toJson entry time
  refine ⟨(entry.toJson time).write, ?_, ?_, Json.read?_write free⟩
  · rw [Entry.text, laidOut]
    rfl
  · rw [Json.write, String.toList_ofList]
    exact Json.printed_characters _ free

theorem Entry.HeldBy.newline_not_mem (held : entry.HeldBy time line) :
    '\n' ∉ line.toList := by
  intro broken
  have printed := held.printed '\n' broken
  contradiction

theorem output_cons (item : Entry × String) (stamped : List (Entry × String)) :
    output (item :: stamped) = item.1.text item.2 ++ output stamped := by
  simp [output, String.join_cons]

/-- Every entry takes one line of what is put out. -/
theorem exists_lines_output {stamped : List (Entry × String)}
    (laidOut : ∀ item ∈ stamped, item.1.layout = .json) :
    ∃ lines, Text.lines (output stamped) = lines ++ [""] ∧
      List.Forall₂ (fun item line => item.1.HeldBy item.2 line)
        stamped lines := by
  induction stamped with
  | nil => exact ⟨[], rfl, .nil⟩
  | cons item rest induction =>
      obtain ⟨itemLaidOut, restLaidOut⟩ := List.forall_mem_cons.mp laidOut
      obtain ⟨line, held⟩ := Entry.exists_heldBy itemLaidOut item.2
      obtain ⟨lines, split, restHeld⟩ := induction restLaidOut
      refine ⟨line :: lines, ?_, .cons held restHeld⟩
      rw [output_cons, held.ended, Text.lines_newline held.newline_not_mem,
        split, List.cons_append]

theorem Entry.HeldBy.lines_text (held : entry.HeldBy time line) :
    Text.lines (entry.text time) = [line, ""] := by
  rw [held.ended, ← String.append_empty (s := line ++ "\n"),
    Text.lines_newline held.newline_not_mem]
  rfl

end Lines

section Layouts

variable {environment : Environment} {journal : Journal}
  {operation : Operation} {history : List Call} {setup : Setup} {entry : Entry}

/-- An operation that writes opens the journal, and its entries are laid out
as the open journal says. -/
theorem setup?_after_of_mem_written
    (inside : entry ∈ written environment journal operation) :
    ∃ setup, (journal.after environment operation).setup? = some setup ∧
      entry.layout = setup.layout := by
  have opens : operation.opens = true := by
    by_contra idle
    rw [written_of_not_opens idle] at inside
    exact List.not_mem_nil inside
  rw [written_eq] at inside
  obtain ⟨remark, _, rfl⟩ := List.mem_map.mp inside
  rw [setup?_after, if_pos opens, Journal.setup, setup?_opened]
  exact ⟨_, rfl, rfl⟩

/-- The setup that a journal ends up with lays out all that was written. -/
theorem layout_of_mem_writtenAll
    (isOpen : (journal.afterAll history).setup? = some setup)
    (inside : entry ∈ journal.writtenAll history) :
    entry.layout = setup.layout := by
  induction history generalizing journal with
  | nil => exact absurd inside List.not_mem_nil
  | cons call rest induction =>
      rcases List.mem_append.mp inside with now | later
      · obtain ⟨made, isMade, laidOut⟩ := setup?_after_of_mem_written now
        have kept : ((journal.after call.1 call.2).afterAll rest).setup? =
            some made :=
          setup?_afterAll_of_open isMade
        obtain rfl := Option.some.inj (kept.symm.trans isOpen)
        exact laidOut
      · exact induction isOpen later

end Layouts

/-- A journal with the JSON layout writes a message at a level that it admits
as one entry, on one line without control characters, and an object with the
same level, target and message is read from that line.  Over a whole history
that sets it up so, the lines are as many as the entries, and each holds its
entry, whatever the times. -/
theorem lines_of_json_journal :
    (∀ (environment : Environment) (journal : Journal) (level : Level)
      (target message : String),
      let opened := journal.opened environment
      let entry : Entry :=
        ⟨.json, opened.setup.timestamps, level, target, message⟩
      opened.setup.layout = .json →
        written environment journal (.write level target message) =
          (if level ≠ .off ∧ opened.threshold.rank ≤ level.rank then [entry]
          else []) ∧
        ∀ time, ∃ line, entry.HeldBy time line ∧
          Text.lines (entry.text time) = [line, ""]) ∧
    ∀ history setup, SetUpAs history setup → setup.layout = .json →
      ∀ stamped, stamped.map Prod.fst = untouched.writtenAll history →
        ∃ lines, Text.lines (output stamped) = lines ++ [""] ∧
          List.Forall₂ (fun item line => item.1.HeldBy item.2 line)
            stamped lines := by
  refine ⟨?_, ?_⟩
  · intro environment journal level target message opened entry laidOut
    refine ⟨?_, ?_⟩
    · show (opened.entryOf? level target message).toList = _
      rw [entryOf?, admits_eq, laidOut]
      simp only [decide_eq_true_eq]
      split <;> rfl
    · intro time
      obtain ⟨line, held⟩ : ∃ line, entry.HeldBy time line :=
        Entry.exists_heldBy rfl time
      exact ⟨line, held, held.lines_text⟩
  · intro history setup setsUp laidOut stamped written
    apply exists_lines_output
    intro item inside
    have isOpen : (untouched.afterAll history).setup? = some setup :=
      (setup?_afterAll_iff rfl).mpr setsUp
    rw [← laidOut]
    apply layout_of_mem_writtenAll isOpen
    rw [← written]
    exact List.mem_map_of_mem inside

/-- A message that goes on behind a newline like a line of its own does not
become one, and a message below the threshold takes no line. -/
theorem lines_of_json_journal_forged_line :
    let environment : Environment := Dictionary.ofPairs
      [("FIELDRULE_LOG_LEVEL", "info"), ("FIELDRULE_LOG_FORMAT", "json")]
    let forged := "done\"\n\x7b\"level\":\"ERROR\"\x7d\x07"
    let history : List Call :=
      [(environment, .write .debug "engine" "started"),
        (environment, .write .info "engine" forged),
        (environment, .write .error "\u2028" "")]
    let first : Entry := ⟨.json, true, .info, "engine", forged⟩
    let last : Entry := ⟨.json, true, .error, "\u2028", ""⟩
    written environment untouched (.write .info "engine" forged) = [first] ∧
      (∃ line, first.HeldBy "now" line ∧
        Text.lines (first.text "now") = [line, ""]) ∧
      untouched.writtenAll history = [first, last] ∧
      ∃ one other,
        Text.lines (output [(first, "now"), (last, "then")]) =
          [one, other, ""] ∧
        first.HeldBy "now" one ∧ last.HeldBy "then" other := by
  intro environment forged history first last
  obtain ⟨calls, histories⟩ := lines_of_json_journal
  have timestamps : (untouched.opened environment).setup.timestamps = true := by
    decide +kernel
  have laidOut : (untouched.opened environment).setup.layout = .json := by
    decide +kernel
  obtain ⟨wrote, single⟩ :=
    calls environment untouched .info "engine" forged laidOut
  rw [timestamps] at wrote single
  have admitted : Level.info ≠ .off ∧
      (untouched.opened environment).threshold.rank ≤ Level.info.rank := by
    decide +kernel
  rw [if_pos admitted] at wrote
  have setsUp : SetUpAs history (Setup.ofEnvironment environment) :=
    ⟨_, firstSuch_cons.mpr (.inl ⟨rfl, rfl⟩), rfl⟩
  have all : untouched.writtenAll history = [first, last] := by
    decide +kernel
  have stamped : [(first, "now"), (last, "then")].map Prod.fst =
      untouched.writtenAll history := all.symm
  obtain ⟨lines, split, held⟩ := histories history _ setsUp laidOut _ stamped
  cases held with
  | cons firstHeld rest =>
      cases rest with
      | cons lastHeld none =>
          cases none
          exact ⟨wrote, single "now", all, _, _, split, firstHeld, lastHeld⟩

end Journal

end FieldCheck
