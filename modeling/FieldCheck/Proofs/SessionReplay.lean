import FieldCheck.Proofs.PassCorrectness
import FieldCheck.Validator.Session

/-!
# The report of a session

The report at the end of a session is that of a replay: only the last pass is
run, with an empty report and with what was in force when it came, and then
only the own checks after it.  What happened earlier, and what is set later,
leaves no trace in the report.
-/

namespace FieldCheck.Validator

/-- A call on a validator: an operation, or a look at the errors or the
settings. -/
inductive Call where
  | change (operation : Operation)
  | readErrors
  | readSettings

inductive Role where
  | pass
  | ownCheck
  | builder
  | reader
deriving DecidableEq

def Call.role : Call → Role
  | .change (.tryValidate _) | .change (.validate _) => .pass
  | .change (.checkOwn _ _ _) => .ownCheck
  | .change (.useCatalog _) | .change (.useOwnMessages _ _) => .builder
  | .readErrors | .readSettings => .reader

def callsOf (role : Role) (calls : List Call) : List Call :=
  calls.filter (fun call => call.role = role)

def afterCall (validator : Validator) : Call → Validator
  | .change operation => validator.after operation
  | .readErrors | .readSettings => validator

/-- The validator after calls in order. -/
def afterCalls (validator : Validator) (calls : List Call) : Validator :=
  calls.foldl afterCall validator

/-- The calls before the last pass, that pass, and the calls after it. -/
def lastPass? : List Call → Option (List Call × Call × List Call)
  | [] => none
  | call :: rest =>
      match lastPass? rest with
      | some (before, pass, later) => some (call :: before, pass, later)
      | none => if call.role = .pass then some ([], call, rest) else none

/-- The report of the replay of a session. -/
def replayed (start : Validator) (calls : List Call) : Report :=
  match lastPass? calls with
  | none => (start.cleared.afterCalls (callsOf .ownCheck calls)).report
  | some (before, pass, later) =>
      (((start.afterCalls before).cleared.afterCall pass).afterCalls
        (callsOf .ownCheck later)).report

inductive Made : Validator → Prop where
  | standard : Made Validator.standard
  | ofSettings {settings : Settings} {validator : Validator}
      (made : Validator.ofSettings settings = .ok validator) : Made validator

theorem lastPass?_eq_none_iff {calls : List Call} :
    lastPass? calls = none ↔ ∀ call ∈ calls, call.role ≠ .pass := by
  induction calls with
  | nil => simp [lastPass?]
  | cons call rest induction =>
      rw [List.forall_mem_cons, ← induction]
      cases found : lastPass? rest with
      | none => simp [lastPass?, found]
      | some split => simp [lastPass?, found]

private theorem split_of_lastPass? {calls before later : List Call}
    {pass : Call} (found : lastPass? calls = some (before, pass, later)) :
    calls = before ++ pass :: later ∧ pass.role = .pass ∧
      ∀ call ∈ later, call.role ≠ .pass := by
  induction calls generalizing before with
  | nil => simp [lastPass?] at found
  | cons call rest induction =>
      cases inRest : lastPass? rest with
      | none =>
          by_cases isPass : call.role = .pass
          · simp only [lastPass?, inRest, if_pos isPass] at found
            cases found
            exact ⟨rfl, isPass, lastPass?_eq_none_iff.mp inRest⟩
          · simp [lastPass?, inRest, isPass] at found
      | some split =>
          obtain ⟨restBefore, restPass, restLater⟩ := split
          simp only [lastPass?, inRest] at found
          cases found
          obtain ⟨rfl, isPass, noPass⟩ := induction inRest
          exact ⟨rfl, isPass, noPass⟩

private theorem lastPass?_append {before later : List Call} {pass : Call}
    (isPass : pass.role = .pass)
    (noPass : ∀ call ∈ later, call.role ≠ .pass) :
    lastPass? (before ++ pass :: later) = some (before, pass, later) := by
  induction before with
  | nil => simp [lastPass?, lastPass?_eq_none_iff.mpr noPass, isPass]
  | cons call before induction => simp [lastPass?, induction]

theorem lastPass?_eq_some_iff {calls before later : List Call}
    {pass : Call} :
    lastPass? calls = some (before, pass, later) ↔
      calls = before ++ pass :: later ∧ pass.role = .pass ∧
        ∀ call ∈ later, call.role ≠ .pass := by
  constructor
  · exact split_of_lastPass?
  · intro described
    obtain ⟨rfl, isPass, noPass⟩ := described
    exact lastPass?_append isPass noPass

section Calls

variable {validator left right : Validator} {call : Call}
  {calls : List Call}

@[simp] theorem afterCalls_cons :
    validator.afterCalls (call :: calls) =
      (validator.afterCall call).afterCalls calls :=
  rfl

theorem afterCalls_append {later : List Call} :
    validator.afterCalls (calls ++ later) =
      (validator.afterCalls calls).afterCalls later :=
  List.foldl_append

/-- A pass begins with an empty report, whatever was in it. -/
theorem cleared_afterCall_of_pass (isPass : call.role = .pass) :
    validator.cleared.afterCall call = validator.afterCall call := by
  cases call with
  | change operation =>
      cases operation with
      | tryValidate fields => rfl
      | validate fields => rfl
      | useCatalog | useOwnMessages | checkOwn => contradiction
  | readErrors | readSettings => contradiction

theorem afterCall_of_pass_congr (isPass : call.role = .pass)
    (same : left.cleared = right.cleared) :
    left.afterCall call = right.afterCall call := by
  rw [← cleared_afterCall_of_pass isPass, same,
    cleared_afterCall_of_pass isPass]

theorem report_afterCall_of_ownCheck (isCheck : call.role = .ownCheck)
    (same : left.report = right.report) :
    (left.afterCall call).report = (right.afterCall call).report := by
  cases call with
  | change operation =>
      cases operation with
      | checkOwn field label templates =>
          simp only [afterCall, after, checkOwn, same]
      | useCatalog | useOwnMessages | tryValidate | validate => contradiction
  | readErrors | readSettings => contradiction

/-- Builders and readers leave the report alone. -/
theorem report_afterCall_of_other (noPass : call.role ≠ .pass)
    (noCheck : call.role ≠ .ownCheck) :
    (validator.afterCall call).report = validator.report := by
  cases call with
  | change operation =>
      cases operation with
      | useCatalog templates => rfl
      | useOwnMessages field templates => rfl
      | checkOwn => exact absurd rfl noCheck
      | tryValidate | validate => exact absurd rfl noPass
  | readErrors | readSettings => rfl

/-- After the last pass the real state and the replayed one agree on the
report, and the replay needs the own checks only. -/
theorem report_afterCalls_of_no_pass
    (noPass : ∀ call ∈ calls, call.role ≠ .pass)
    (same : left.report = right.report) :
    (left.afterCalls calls).report =
      (right.afterCalls (callsOf .ownCheck calls)).report := by
  induction calls generalizing left right with
  | nil => exact same
  | cons call rest induction =>
      obtain ⟨callNoPass, restNoPass⟩ := List.forall_mem_cons.mp noPass
      by_cases isCheck : call.role = .ownCheck
      · have kept : callsOf .ownCheck (call :: rest) =
            call :: callsOf .ownCheck rest := by
          simp [callsOf, isCheck]
        rw [kept, afterCalls_cons, afterCalls_cons]
        exact induction restNoPass
          (report_afterCall_of_ownCheck isCheck same)
      · have dropped : callsOf .ownCheck (call :: rest) =
            callsOf .ownCheck rest := by
          simp [callsOf, isCheck]
        rw [dropped, afterCalls_cons]
        refine induction restNoPass ?_
        rw [report_afterCall_of_other callNoPass isCheck, same]

/-- A message stays until the next pass. -/
theorem get?_afterCall_of_some (noPass : call.role ≠ .pass) {key : String}
    {message : Message} (found : validator.report.get? key = some message) :
    (validator.afterCall call).report.get? key = some message := by
  by_cases isCheck : call.role = .ownCheck
  · cases call with
    | change operation =>
        cases operation with
        | checkOwn field label templates =>
            simp only [afterCall, after, checkOwn, Report.get?_recordAll,
              found, Option.some_or]
        | useCatalog | useOwnMessages | tryValidate | validate =>
            contradiction
    | readErrors | readSettings => contradiction
  · rw [report_afterCall_of_other noPass isCheck]
    exact found

theorem get?_afterCalls_of_some
    (noPass : ∀ call ∈ calls, call.role ≠ .pass) {key : String}
    {message : Message} (found : validator.report.get? key = some message) :
    (validator.afterCalls calls).report.get? key = some message := by
  induction calls generalizing validator with
  | nil => exact found
  | cons call rest induction =>
      obtain ⟨callNoPass, restNoPass⟩ := List.forall_mem_cons.mp noPass
      exact induction restNoPass (get?_afterCall_of_some callNoPass found)

theorem scan_cleared {fields : List Field} :
    (validator.scan fields).2.cleared = validator.cleared := by
  induction fields generalizing validator with
  | nil => rfl
  | cons field rest induction =>
      unfold scan
      split
      · rfl
      · exact induction
      · exact induction

theorem tryValidate_cleared {fields : List Field} :
    (validator.tryValidate fields).2.cleared = validator.cleared :=
  scan_cleared

/-- What is in force after a call does not depend on the report, and only a
builder changes it. -/
theorem afterCall_cleared :
    (validator.afterCall call).cleared =
      validator.cleared.afterCalls (callsOf .builder [call]) := by
  cases call with
  | change operation =>
      cases operation with
      | useCatalog templates => rfl
      | useOwnMessages field templates => rfl
      | tryValidate fields => exact tryValidate_cleared
      | validate fields => exact tryValidate_cleared
      | checkOwn field label templates => rfl
  | readErrors | readSettings => rfl

theorem afterCalls_cleared :
    (validator.afterCalls calls).cleared =
      validator.cleared.afterCalls (callsOf .builder calls) := by
  induction calls generalizing validator with
  | nil => rfl
  | cons call rest induction =>
      have split : callsOf .builder (call :: rest) =
          callsOf .builder [call] ++ callsOf .builder rest :=
        List.filter_append [call] rest
      rw [afterCalls_cons, induction, afterCall_cleared, split,
        afterCalls_append]

/-- A pass right after the same pass gives the same result once more. -/
theorem tryValidate_again {fields : List Field} :
    (validator.tryValidate fields).2.tryValidate fields =
      validator.tryValidate fields := by
  have sameStart : (validator.tryValidate fields).2.cleared =
      validator.cleared := tryValidate_cleared
  unfold tryValidate at sameStart ⊢
  rw [sameStart]

theorem validate_again {fields : List Field} :
    (validator.validate fields).2.validate fields =
      validator.validate fields := by
  unfold validate
  simp only [tryValidate_again]

end Calls

theorem Made.cleared {start : Validator} (made : start.Made) :
    start.cleared = start := by
  cases made with
  | standard => rfl
  | @ofSettings settings _ made =>
      obtain ⟨catalog, _, rfl⟩ := exceptMap_eq_ok_iff.mp made
      rfl

/-- Real session and replay end with the same report. -/
theorem report_afterCalls_eq_replayed {start : Validator}
    (unused : start.cleared = start) (calls : List Call) :
    (start.afterCalls calls).report = start.replayed calls := by
  unfold replayed
  cases found : lastPass? calls with
  | none =>
      have noPass := lastPass?_eq_none_iff.mp found
      exact report_afterCalls_of_no_pass noPass
        (congrArg Validator.report unused.symm)
  | some split =>
      obtain ⟨before, pass, later⟩ := split
      obtain ⟨rfl, isPass, noPass⟩ := lastPass?_eq_some_iff.mp found
      rw [afterCalls_append, afterCalls_cons]
      refine report_afterCalls_of_no_pass noPass ?_
      rw [cleared_afterCall_of_pass isPass]

/-- A session ends with the report of its replay.  In particular the builders
alone determine what is in force at a pass; a report from before a pass has no
influence on anything after it; a message stays, whatever else is called, until
the next pass; a stopped pass counts as an empty report; and a pass right after
the same pass changes nothing. -/
theorem report_of_session {start : Validator} (made : start.Made)
    (calls : List Call) :
    (start.afterCalls calls).report = start.replayed calls ∧
    (∀ before, (start.afterCalls before).cleared =
      start.afterCalls (callsOf .builder before)) ∧
    (∀ before pass later, calls = before ++ pass :: later →
      pass.role = .pass → ∀ report : Report,
        { start.afterCalls before with report := report }.afterCalls
            (pass :: later) =
          start.afterCalls calls) ∧
    (∀ before later, calls = before ++ later →
      (∀ call ∈ later, call.role ≠ .pass) →
        ∀ key message,
          (start.afterCalls before).report.get? key = some message →
            (start.afterCalls calls).report.get? key = some message) ∧
    (∀ (validator : Validator) fields fault,
      (validator.tryValidate fields).1 = .error fault →
        (validator.after (.tryValidate fields)).report = Report.empty ∧
          (validator.after (.validate fields)).report = Report.empty) ∧
    (∀ (validator : Validator) fields,
      (validator.tryValidate fields).2.tryValidate fields =
          validator.tryValidate fields ∧
        (validator.validate fields).2.validate fields =
          validator.validate fields) := by
  refine ⟨report_afterCalls_eq_replayed made.cleared calls, ?_, ?_, ?_, ?_,
    fun _ _ => ⟨tryValidate_again, validate_again⟩⟩
  · intro before
    rw [afterCalls_cleared, made.cleared]
  · intro before pass later equal isPass report
    have samePass :
        { start.afterCalls before with report := report }.afterCall pass =
          (start.afterCalls before).afterCall pass :=
      afterCall_of_pass_congr isPass rfl
    rw [equal, afterCalls_append, afterCalls_cons, afterCalls_cons, samePass]
  · intro before later equal noPass key message found
    rw [equal, afterCalls_append]
    exact get?_afterCalls_of_some noPass found
  · intro validator fields fault stopped
    have emptied : (validator.tryValidate fields).2 = validator.cleared := by
      rw [tryValidate_of_firstDefect (stopped_iff.mp stopped)]
    exact ⟨congrArg Validator.report emptied,
      congrArg Validator.report emptied⟩

/-- An own check before a stopped pass is forgotten, and a catalog set after it
does not reach the own check that follows. -/
theorem report_of_session_stopped_pass :
    let calls : List Call :=
      [.change (.checkOwn "name" "" ["taken"]),
        .change (.tryValidate
          [⟨"name", "", .text "Bob1", "alpha"⟩,
            ⟨"age", "", .integer 3, "max=18446744073709551616"⟩]),
        .change (.useCatalog []), .readErrors,
        .change (.checkOwn "name" "Name" ["${label} is late"])]
    (Validator.standard.afterCalls calls).report =
      Validator.standard.replayed calls :=
  (report_of_session .standard _).1

end FieldCheck.Validator
