import FieldCheck.Journal
import FieldCheck.Report
import FieldCheck.Text.Quoted
import FieldCheck.Verdict

/-!
# Notes of a pass

A pass over a record leaves notes for the journal: the fields and tokens that
it passed over, the rules that failed, and the number of failing fields at its
end.  A note is a value; what becomes of it is up to the journal.
-/

namespace FieldCheck.Journal

inductive Note where
  | skippedField (key : String) (kind : Value.Kind)
  | ignoredToken (key token : String)
  | failedRule (key : String) (rule : RuleName) (rendered : String)
  | finished (failing : Nat)
deriving DecidableEq

namespace Note

def target : String :=
  "fieldrule_validation::engine"

/-- What was passed over is told at the lowest level only. -/
def level : Note → Level
  | .skippedField _ _ | .ignoredToken _ _ => .trace
  | .failedRule _ _ _ | .finished _ => .debug

def message : Note → String
  | .skippedField key kind =>
      "skipping field `" ++ key ++ "` of unsupported type " ++ kind.title
  | .ignoredToken key token =>
      "field `" ++ key ++ "`: ignoring token " ++ Text.quoted token
  | .failedRule key rule rendered =>
      "field `" ++ key ++ "` failed rule `" ++ rule.text ++ "`: " ++ rendered
  | .finished failing =>
      "validation pass finished with " ++ toString failing ++
        " failing field(s)"

end Note

def entries (journal : Journal) (notes : List Note) : List Entry :=
  notes.filterMap
    (fun note => journal.entryOf? note.level Note.target note.message)

end FieldCheck.Journal
