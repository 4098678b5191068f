import FieldCheck.Journal.Note

/-!
# Operations on the journal

A program uses its journal through a few operations, and the environment may
change between them.  All but two of them need the journal open and set it up
first; the other two ask whether it is open and take the threshold from the
environment again.
-/

namespace FieldCheck.Journal

inductive Operation where
  | prepare
  | askOpen
  | askSetup
  | askAdmits (level : Level)
  | setThreshold (level : Level)
  | write (level : Level) (target message : String)
  | tell (notes : List Note)
  | reread

inductive Reply where
  | done
  | truth (answer : Bool)
  | setup (setup : Setup)

def after (environment : Environment) (journal : Journal) :
    Operation → Journal
  | .askOpen => journal
  | .reread => journal.reread environment
  | .setThreshold level => journal.setThreshold environment level
  | .prepare | .askSetup | .askAdmits _ | .write _ _ _ | .tell _ =>
      journal.opened environment

/-- The answer to an operation.  Rereading answers with the setup that the
environment describes, which need not be the one in use. -/
def reply (environment : Environment) (journal : Journal) : Operation → Reply
  | .askOpen => .truth journal.isOpen
  | .askSetup => .setup (journal.opened environment).setup
  | .askAdmits level => .truth ((journal.opened environment).admits level)
  | .reread => .setup (Setup.ofEnvironment environment)
  | .prepare | .setThreshold _ | .write _ _ _ | .tell _ => .done

def written (environment : Environment) (journal : Journal) :
    Operation → List Entry
  | .write level target message =>
      ((journal.opened environment).entryOf? level target message).toList
  | .tell notes => (journal.opened environment).entries notes
  | .prepare | .askOpen | .askSetup | .askAdmits _ | .setThreshold _
  | .reread => []

def afterAll (journal : Journal)
    (operations : List (Environment × Operation)) : Journal :=
  operations.foldl
    (fun journal operation => journal.after operation.1 operation.2) journal

end FieldCheck.Journal
