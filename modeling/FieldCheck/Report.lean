import FieldCheck.Dictionary
import FieldCheck.Json
import FieldCheck.Message

/-!
# Reports

A report holds at most one message per field.  The first message recorded for
a field stays, and the fields are listed in the order of their keys.
-/

namespace FieldCheck

/-- The failures found so far, one message per field. -/
structure Report where
  messages : Dictionary Message
deriving DecidableEq

namespace Report

def empty : Report :=
  ⟨Dictionary.empty⟩

def isEmpty (report : Report) : Bool :=
  report.messages.isEmpty

def size (report : Report) : Nat :=
  report.messages.size

def get? (report : Report) (field : String) : Option Message :=
  report.messages.get? field

def contains (report : Report) (field : String) : Bool :=
  report.messages.contains field

def fields (report : Report) : List String :=
  report.messages.keys

def entries (report : Report) : List (String × Message) :=
  report.messages.entries

/-- Record a message for a field that has none. -/
def record (report : Report) (field : String) (message : Message) : Report :=
  ⟨report.messages.insertNew field message⟩

def record? (report : Report) (field : String) (message : Message) :
    Bool × Report :=
  (!report.contains field, report.record field message)

def recordAll (report : Report) (failures : List (String × Message)) :
    Report :=
  failures.foldl (fun report failure => report.record failure.1 failure.2)
    report

def display (report : Report) : String :=
  String.join (report.entries.map
    (fun entry => entry.1 ++ ": " ++ entry.2.rendered ++ "\n"))

/-- The failures as an object that holds the message and its format for each
field. -/
def toJson (report : Report) : Json :=
  .ofMembers [("errors", .ofMembers (report.entries.map (fun entry =>
    (entry.1, .ofMembers
      [("message", .ofString entry.2.rendered),
        ("format", .ofString entry.2.template)]))))]

def messageJson (message : Message) : Json :=
  .ofMembers
    [("rendered", .ofString message.rendered),
      ("template", .ofString message.template)]

def serialized (report : Report) : Json :=
  .ofMembers (report.entries.map
    (fun entry => (entry.1, messageJson entry.2)))

def nonEmpty? (report : Report) : Option Report :=
  if report.isEmpty then none else some report

/-- Reading after recording: only a field without a message gains one. -/
theorem get?_record (report : Report) (field : String) (message : Message)
    (queried : String) :
    (report.record field message).get? queried =
      if queried = field then some ((report.get? field).getD message)
      else report.get? queried :=
  Dictionary.get?_insertNew report.messages field message queried

theorem ext_get? {left right : Report}
    (readings : ∀ field, left.get? field = right.get? field) :
    left = right := by
  cases left
  cases right
  exact congrArg Report.mk (Dictionary.ext_get? readings)

end Report

end FieldCheck
