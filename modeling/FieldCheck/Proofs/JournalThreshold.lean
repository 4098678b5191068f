import FieldCheck.Journal.Operation
import FieldCheck.Proofs.FirstSuch
import Mathlib.Data.List.Induction

/-!
# The threshold of the journal

The threshold is set on purpose, taken from the environment again, or taken
from it when the journal is set up.  That last happens once, within another
call and without being asked for.  A history of calls tells which level is in
force after them: the one that was stored last.
-/

namespace FieldCheck.Journal

/-- A use of the journal, with the environment that it happens in. -/
abbrev Call := Environment × Operation

def Operation.opens : Operation → Bool
  | .askOpen | .reread => false
  | .prepare | .askSetup | .askAdmits _ | .setThreshold _ | .write _ _ _
  | .tell _ => true

/-- The level that a call is there to store. -/
def Call.stored? (call : Call) : Option Level :=
  match call.2 with
  | .setThreshold level => some level
  | .reread => some (Setup.ofEnvironment call.1).level
  | .prepare | .askOpen | .askSetup | .askAdmits _ | .write _ _ _ | .tell _ =>
      none

/-- The setup that a history makes: the one that the environment describes at
the first call that needs the journal open. -/
def SetUpAs (history : List Call) (setup : Setup) : Prop :=
  ∃ opening,
    FirstSuch (fun call : Call => call.2.opens = true) history opening ∧
      setup = Setup.ofEnvironment opening.1

/-- A call after others is the first one that needs the journal open. -/
structure Call.SetsUp (before : List Call) (call : Call) : Prop where
  opens : call.2.opens = true
  first : ∀ earlier ∈ before, ¬ earlier.2.opens = true

/-- A call after others leaves a level behind: the one that it is there to
store, or else that of the setup if it makes one. -/
inductive Call.Leaves (before : List Call) (call : Call) : Level → Prop where
  | own {level : Level} (stored : call.stored? = some level) :
      Leaves before call level
  | setup (silent : call.stored? = none) (setsUp : call.SetsUp before) :
      Leaves before call (Setup.ofEnvironment call.1).level

/-- The level that was left behind last. -/
def InForce (history : List Call) (level : Level) : Prop :=
  ∃ before call after, history = before ++ call :: after ∧
    call.Leaves before level ∧
    ∀ front later back, after = front ++ later :: back →
      ∀ other, ¬ later.Leaves (before ++ call :: front) other

/-- What an operation has to say: levels, targets and messages, in order. -/
def Operation.remarks : Operation → List (Level × String × String)
  | .write level target message => [(level, target, message)]
  | .tell notes => notes.map (fun note =>
      (note.level, Note.target, note.message))
  | .prepare | .askOpen | .askSetup | .askAdmits _ | .setThreshold _
  | .reread => []

section Steps

variable (environment : Environment) (journal : Journal)
  (operation : Operation)

theorem setup?_after :
    (journal.after environment operation).setup? =
      if operation.opens then (journal.opened environment).setup?
      else journal.setup? := by
  cases operation <;> rfl

theorem threshold_after (call : Call) :
    (journal.after call.1 call.2).threshold =
      call.stored?.getD
        (if call.2.opens then (journal.opened call.1).threshold
        else journal.threshold) := by
  obtain ⟨environment, operation⟩ := call
  cases operation <;> rfl

theorem setup?_opened :
    (journal.opened environment).setup? =
      some (journal.setup?.getD (Setup.ofEnvironment environment)) := by
  unfold opened
  cases made : journal.setup? <;> simp [made]

theorem threshold_opened :
    (journal.opened environment).threshold =
      if journal.setup? = none then (Setup.ofEnvironment environment).level
      else journal.threshold := by
  unfold opened
  cases made : journal.setup? <;> simp [made, reread]

/-- An operation writes those of its remarks that the open journal admits. -/
theorem written_eq :
    written environment journal operation =
      (operation.remarks.filter
        (fun remark => (journal.opened environment).admits remark.1)).map
        (fun remark => ⟨(journal.opened environment).setup.layout,
          (journal.opened environment).setup.timestamps,
          remark.1, remark.2.1, remark.2.2⟩) := by
  cases operation with
  | write level target message =>
      by_cases admitted : (journal.opened environment).admits level = true <;>
        simp [written, entryOf?, Operation.remarks, admitted]
  | tell notes =>
      simp only [written, entries, Operation.remarks, entryOf?]
      induction notes with
      | nil => rfl
      | cons note rest induction =>
          by_cases admitted :
              (journal.opened environment).admits note.level = true <;>
            simp_all
  | prepare | askOpen | askSetup | askAdmits _ | setThreshold _ | reread => rfl

end Steps

section Histories

variable {environment : Environment} {journal : Journal}
  {history : List Call} {call : Call} {setup : Setup} {level : Level}

theorem afterAll_concat :
    journal.afterAll (history ++ [call]) =
      (journal.afterAll history).after call.1 call.2 := by
  rw [afterAll, List.foldl_append]
  rfl

/-- What is set up once stays so. -/
theorem setup?_afterAll_of_open (isOpen : journal.setup? = some setup) :
    (journal.afterAll history).setup? = some setup := by
  induction history generalizing journal with
  | nil => exact isOpen
  | cons call rest induction =>
      apply induction
      rw [setup?_after, setup?_opened, isOpen, Option.getD_some, ite_self]

theorem setup?_afterAll_iff (closed : journal.setup? = none) :
    (journal.afterAll history).setup? = some setup ↔
      SetUpAs history setup := by
  unfold SetUpAs
  induction history generalizing journal with
  | nil =>
      show journal.setup? = some setup ↔ _
      simp [closed, not_firstSuch_nil]
  | cons call rest induction =>
      show ((journal.after call.1 call.2).afterAll rest).setup? = _ ↔ _
      simp only [firstSuch_cons]
      by_cases opens : call.2.opens = true
      · have isOpen : (journal.after call.1 call.2).setup? =
            some (Setup.ofEnvironment call.1) := by
          rw [setup?_after, if_pos opens, setup?_opened, closed,
            Option.getD_none]
        rw [setup?_afterAll_of_open isOpen]
        simp [opens, @eq_comm _ setup]
      · have stillClosed : (journal.after call.1 call.2).setup? = none := by
          rw [setup?_after, if_neg opens, closed]
        simp [induction stillClosed, opens]

theorem setup?_untouched_afterAll_eq_none_iff :
    (untouched.afterAll history).setup? = none ↔
      ∀ call ∈ history, ¬ call.2.opens = true := by
  rw [Option.eq_none_iff_forall_ne_some]
  constructor
  · intro closed call inside opens
    have someOpens : ∃ call ∈ history, call.2.opens = true :=
      ⟨call, inside, opens⟩
    obtain ⟨opening, first⟩ := exists_firstSuch_iff.mpr someOpens
    exact closed _ ((setup?_afterAll_iff rfl).mpr ⟨opening, first, rfl⟩)
  · intro idle setup isOpen
    obtain ⟨opening, first, _⟩ := (setup?_afterAll_iff rfl).mp isOpen
    exact idle opening first.mem first.has

theorem threshold_after_of_leaves (leaves : call.Leaves history level) :
    (untouched.afterAll (history ++ [call])).threshold = level := by
  rw [afterAll_concat, threshold_after]
  cases leaves with
  | own stored => rw [stored, Option.getD_some]
  | setup silent setsUp =>
      have closed := setup?_untouched_afterAll_eq_none_iff.mpr setsUp.first
      rw [silent, Option.getD_none, if_pos setsUp.opens, threshold_opened,
        if_pos closed]

theorem threshold_after_of_not_leaves
    (nothing : ∀ level, ¬ call.Leaves history level) :
    (untouched.afterAll (history ++ [call])).threshold =
      (untouched.afterAll history).threshold := by
  have silent : call.stored? = none := by
    rw [Option.eq_none_iff_forall_ne_some]
    intro level stored
    exact nothing level (.own stored)
  rw [afterAll_concat, threshold_after, silent, Option.getD_none]
  split
  case isTrue opens =>
    rw [threshold_opened, if_neg]
    intro closed
    exact nothing _ (.setup silent
      ⟨opens, setup?_untouched_afterAll_eq_none_iff.mp closed⟩)
  case isFalse => rfl

theorem exists_leaves_of_setsUp (setsUp : call.SetsUp history) :
    ∃ level, call.Leaves history level := by
  cases stored : call.stored? with
  | none => exact ⟨_, .setup stored setsUp⟩
  | some level => exact ⟨level, .own stored⟩

theorem not_inForce_nil : ¬ InForce [] level := by
  intro inForce
  obtain ⟨before, call, after, equal, _⟩ := inForce
  simp at equal

/-- The last call decides what is in force, or it leaves that as it was. -/
theorem inForce_concat_iff :
    InForce (history ++ [call]) level ↔
      call.Leaves history level ∨
        (∀ other, ¬ call.Leaves history other) ∧ InForce history level := by
  constructor
  · intro inForce
    obtain ⟨before, left, after, equal, leaves, quiet⟩ := inForce
    cases after using List.reverseRecOn with
    | nil =>
        obtain ⟨rfl, same⟩ := List.append_inj' equal rfl
        obtain rfl := List.singleton_inj.mp same
        exact .inl leaves
    | append_singleton after last =>
        rw [← List.cons_append, ← List.append_assoc] at equal
        obtain ⟨rfl, same⟩ := List.append_inj' equal rfl
        obtain rfl := List.singleton_inj.mp same
        refine .inr ⟨quiet after call [] rfl, before, left, after, rfl, leaves,
          ?_⟩
        intro front later back split
        exact quiet front later (back ++ [call]) (by simp [split])
  · intro described
    rcases described with leaves | ⟨nothing, before, left, after, rfl, leaves,
      quiet⟩
    · refine ⟨history, call, [], rfl, leaves, ?_⟩
      intro front later back equal
      simp at equal
    · refine ⟨before, left, after ++ [call], by simp, leaves, ?_⟩
      intro front later back equal
      cases back using List.reverseRecOn with
      | nil =>
          obtain ⟨rfl, same⟩ := List.append_inj' equal rfl
          obtain rfl := List.singleton_inj.mp same
          exact nothing
      | append_singleton back last =>
          rw [← List.cons_append, ← List.append_assoc] at equal
          obtain ⟨rfl, _⟩ := List.append_inj' equal rfl
          exact quiet front later back rfl

/-- The threshold is the level in force.  If there is none, it is that of the
beginning, and no call has needed the journal open. -/
theorem inForce_threshold_or (history : List Call) :
    InForce history (untouched.afterAll history).threshold ∨
      (∀ level, ¬ InForce history level) ∧
        (untouched.afterAll history).threshold = .warn ∧
        ∀ call ∈ history, ¬ call.2.opens = true := by
  induction history using List.reverseRecOn with
  | nil => exact .inr ⟨fun _ => not_inForce_nil, rfl, by simp⟩
  | append_singleton history call induction =>
      simp only [inForce_concat_iff]
      rcases exists_or_forall_not (fun level => call.Leaves history level) with
        ⟨level, leaves⟩ | nothing
      · rw [threshold_after_of_leaves leaves]
        exact .inl (.inl leaves)
      · rw [threshold_after_of_not_leaves nothing]
        rcases induction with inForce | ⟨none, start, idle⟩
        · exact .inl (.inr ⟨nothing, inForce⟩)
        · refine .inr ⟨?_, start, ?_⟩
          · intro level described
            rcases described with leaves | ⟨_, inForce⟩
            · exact nothing level leaves
            · exact none level inForce
          · intro other inside opens
            rcases List.mem_append.mp inside with earlier | last
            · exact idle other earlier opens
            · obtain rfl := List.mem_singleton.mp last
              obtain ⟨level, leaves⟩ :=
                exists_leaves_of_setsUp (Call.SetsUp.mk opens idle)
              exact nothing level leaves

/-- At most one level is in force, and it is the threshold. -/
theorem threshold_of_inForce (inForce : InForce history level) :
    (untouched.afterAll history).threshold = level := by
  induction history using List.reverseRecOn with
  | nil => exact absurd inForce not_inForce_nil
  | append_singleton history call induction =>
      rcases inForce_concat_iff.mp inForce with leaves | ⟨nothing, inForce⟩
      · exact threshold_after_of_leaves leaves
      · rw [threshold_after_of_not_leaves nothing, induction inForce]

theorem threshold_afterAll_eq_iff :
    (untouched.afterAll history).threshold = level ↔
      InForce history level ∨
        (∀ other, ¬ InForce history other) ∧ level = .warn := by
  constructor
  · intro equal
    rcases inForce_threshold_or history with inForce | ⟨none, start, _⟩
    · exact .inl (equal ▸ inForce)
    · exact .inr ⟨none, equal.symm.trans start⟩
  · intro described
    rcases described with inForce | ⟨none, rfl⟩
    · exact threshold_of_inForce inForce
    · rcases inForce_threshold_or history with inForce | ⟨_, start, _⟩
      · exact absurd inForce (none _)
      · exact start

theorem inForce_threshold (inside : call ∈ history)
    (opens : call.2.opens = true) :
    InForce history (untouched.afterAll history).threshold := by
  rcases inForce_threshold_or history with inForce | ⟨_, _, idle⟩
  · exact inForce
  · exact absurd opens (idle call inside)

theorem isOpen_afterAll_iff :
    (untouched.afterAll history).isOpen = true ↔
      ∃ call ∈ history, call.2.opens = true := by
  rw [isOpen, Option.isSome_iff_ne_none, ne_eq,
    setup?_untouched_afterAll_eq_none_iff]
  push Not
  rfl

theorem stored?_eq_none_iff :
    call.stored? = none ↔
      call.2 ≠ .reread ∧ ∀ level, call.2 ≠ .setThreshold level := by
  obtain ⟨environment, operation⟩ := call
  cases operation <;> simp [Call.stored?]

/-- A level that is set stays in force until another one is set or read. -/
theorem inForce_of_setThreshold {before after : List Call}
    (untouchedSince : ∀ later ∈ after, later.stored? = none) :
    InForce (before ++ (environment, .setThreshold level) :: after) level := by
  refine ⟨before, _, after, rfl, .own rfl, ?_⟩
  intro front later back split other leaves
  cases leaves with
  | own stored =>
      rw [untouchedSince later (by simp [split])] at stored
      contradiction
  | setup _ setsUp =>
      exact setsUp.first (environment, .setThreshold level) (by simp) rfl

end Histories

section Opened

variable {environment : Environment} {operation : Operation}
  {history : List Call} {level : Level} {journal : Journal}

/-- A call that needs the journal open finds the setup that is made by then. -/
theorem setUpAs_opened (opens : operation.opens = true) :
    SetUpAs (history ++ [(environment, operation)])
      ((untouched.afterAll history).opened environment).setup := by
  have closed : untouched.setup? = none := rfl
  rw [← setup?_afterAll_iff closed, afterAll_concat, setup?_after,
    if_pos opens, setup, setup?_opened, Option.getD_some]

/-- A call that stores nothing finds the level that is in force by then. -/
theorem inForce_opened (opens : operation.opens = true)
    (silent : Call.stored? (environment, operation) = none) :
    InForce (history ++ [(environment, operation)])
      ((untouched.afterAll history).opened environment).threshold := by
  have inForce : InForce (history ++ [(environment, operation)])
      (untouched.afterAll (history ++ [(environment, operation)])).threshold :=
    inForce_threshold (List.mem_concat_self) opens
  rwa [afterAll_concat, threshold_after, silent, Option.getD_none,
    if_pos opens] at inForce

theorem admits_eq :
    journal.admits level =
      decide (level ≠ .off ∧ journal.threshold.rank ≤ level.rank) := by
  cases level <;> simp [admits, Level.reaches]

theorem eq_off_of_rank_le (reaches : Level.off.rank ≤ level.rank) :
    level = .off := by
  cases level <;> simp_all [Level.rank]

/-- Only calls that need the journal open and store nothing have something to
say. -/
theorem silent_of_mem_remarks (environment : Environment)
    {remark : Level × String × String} (said : remark ∈ operation.remarks) :
    operation.opens = true ∧ Call.stored? (environment, operation) = none := by
  cases operation <;>
    simp_all [Operation.opens, Operation.remarks, Call.stored?]

theorem written_of_not_opens (idle : ¬ operation.opens = true) :
    written environment journal operation = [] := by
  cases operation with
  | askOpen | reread => rfl
  | prepare | askSetup | askAdmits _ | setThreshold _ | write _ _ _ | tell _ =>
      exact absurd rfl idle

theorem exists_threshold_or_silent (opens : operation.opens = true) :
    (∃ level, operation = .setThreshold level) ∨
      Call.stored? (environment, operation) = none := by
  cases operation <;> simp_all [Operation.opens, Call.stored?]

theorem not_off_of_mem_written {entry : Entry}
    (inside : entry ∈ written environment (untouched.afterAll history)
      operation) :
    entry.level ≠ .off ∧
      ¬ InForce (history ++ [(environment, operation)]) .off := by
  rw [written_eq] at inside
  obtain ⟨remark, said, rfl⟩ := List.mem_map.mp inside
  obtain ⟨said, admitted⟩ := List.mem_filter.mp said
  rw [admits_eq, decide_eq_true_eq] at admitted
  obtain ⟨opens, silent⟩ := silent_of_mem_remarks environment said
  refine ⟨admitted.1, ?_⟩
  intro off
  have same : ((untouched.afterAll history).opened environment).threshold =
      .off := by
    rw [← threshold_of_inForce off]
    exact (threshold_of_inForce (inForce_opened opens silent)).symm
  rw [same] at admitted
  exact admitted.1 (eq_off_of_rank_le admitted.2)

end Opened

/-- The journal is set up once, by the first call that needs it open and as the
environment says then; layout and time stamps come from there ever after.  The
threshold is the level stored last, by setting it, by rereading the environment
or by that setup, which comes before the effect of the call itself.  What
reaches it is admitted and written, except at the last level; so nothing is
written at that level or with that threshold. -/
theorem threshold_of_history (history : List Call) (environment : Environment)
    (operation : Operation) :
    let journal := untouched.afterAll history
    let calls := history ++ [(environment, operation)]
    (∀ setup, journal.setup? = some setup ↔ SetUpAs history setup) ∧
    (∀ level, journal.threshold = level ↔ InForce history level ∨
      (∀ other, ¬ InForce history other) ∧ level = .warn) ∧
    (∃ answer, journal.reply environment .askOpen = .truth answer ∧
      (answer = true ↔ ∃ earlier ∈ history, earlier.2.opens = true)) ∧
    (operation.opens = true → ∃ setup level,
      SetUpAs calls setup ∧ InForce calls level ∧
      written environment journal operation =
        (operation.remarks.filter (fun remark =>
          remark.1 ≠ .off ∧ level.rank ≤ remark.1.rank)).map (fun remark =>
            ⟨setup.layout, setup.timestamps, remark.1, remark.2.1,
              remark.2.2⟩) ∧
      (operation = .askSetup →
        journal.reply environment operation = .setup setup) ∧
      ∀ asked, operation = .askAdmits asked →
        journal.reply environment operation =
          .truth (decide (asked ≠ .off ∧ level.rank ≤ asked.rank))) ∧
    (¬ operation.opens = true → written environment journal operation = []) ∧
    (∀ before given level after,
      history = before ++ (given, .setThreshold level) :: after →
      (∀ later ∈ after, later.2 ≠ .reread ∧
        ∀ other, later.2 ≠ .setThreshold other) →
      InForce history level) ∧
    ∀ entry ∈ written environment journal operation,
      entry.level ≠ .off ∧ ¬ InForce calls .off := by
  intro journal calls
  refine ⟨fun _ => setup?_afterAll_iff rfl, fun _ => threshold_afterAll_eq_iff,
    ⟨_, rfl, isOpen_afterAll_iff⟩, ?_, written_of_not_opens, ?_,
    fun _ => not_off_of_mem_written⟩
  · intro opens
    rcases exists_threshold_or_silent opens with ⟨level, rfl⟩ | silent
    · exact ⟨_, _, setUpAs_opened rfl,
        inForce_threshold List.mem_concat_self rfl, rfl, nofun, nofun⟩
    · refine ⟨_, _, setUpAs_opened opens, inForce_opened opens silent, ?_, ?_,
        ?_⟩
      · simp only [written_eq, admits_eq, journal]
      · rintro rfl
        rfl
      · rintro asked rfl
        rw [reply, admits_eq]
  · intro before given level after split since
    rw [split]
    exact inForce_of_setThreshold
      (fun later inside => stored?_eq_none_iff.mpr (since later inside))

/-- A threshold that is set by the very first call that needs the journal open
outlasts what the environment says then, while the layout is taken from it. -/
theorem threshold_of_history_set_first :
    let silent : Environment := Dictionary.ofPairs
      [("FIELDRULE_LOG_LEVEL", "off"), ("FIELDRULE_LOG_FORMAT", "json")]
    let plain : Environment := Dictionary.empty
    let history : List Call :=
      [(plain, .reread), (silent, .setThreshold .debug), (silent, .askOpen)]
    let operation : Operation := .write .info "engine" "done"
    InForce history .debug ∧
      written plain (untouched.afterAll history) operation =
        [⟨.json, true, .info, "engine", "done"⟩] ∧
      ¬ InForce (history ++ [(plain, operation)]) .off := by
  intro silent plain history operation
  obtain ⟨_, _, _, _, _, kept, never⟩ :=
    threshold_of_history history plain operation
  have inForce : InForce history .debug := by
    refine kept [(plain, .reread)] silent .debug [(silent, .askOpen)] rfl ?_
    intro later inside
    obtain rfl := List.mem_singleton.mp inside
    exact ⟨nofun, nofun⟩
  have writes : written plain (untouched.afterAll history) operation =
      [⟨.json, true, .info, "engine", "done"⟩] := by
    decide +kernel
  have inside : ⟨.json, true, .info, "engine", "done"⟩ ∈
      written plain (untouched.afterAll history) operation := by
    rw [writes]
    exact List.mem_singleton_self _
  exact ⟨inForce, writes, (never _ inside).2⟩

end FieldCheck.Journal
