import FieldCheck.Environment
import FieldCheck.Settings

/-!
# Settings from variables

Two variables are read, the one for presence before the one for the journal.
A variable that is not set leaves the standard setting; one whose text names
nothing is reported with that text as it was given.
-/

namespace FieldCheck.Settings

/-- Read a truth value: blank ends and ASCII case do not count. -/
def truth? (text : String) : Option Bool :=
  match Text.normalized text with
  | "1" | "true" | "yes" | "on" => some true
  | "0" | "false" | "no" | "off" => some false
  | _ => none

def readVariable {α : Type} (lookup : String → Option String) (name : String)
    (read? : String → Option α) (unset : α) : Except SettingsFault α :=
  match lookup name with
  | none => .ok unset
  | some text =>
      match read? text with
      | some value => .ok value
      | none => .error (.invalidValue name text)

def ofLookup (lookup : String → Option String) :
    Except SettingsFault Settings := do
  let presence ← readVariable lookup Environment.presenceName
    Presence.parse? standard.presence
  let logFailures ← readVariable lookup Environment.logFailuresName
    truth? standard.logFailures
  return ⟨presence, logFailures, standard.messages⟩

def ofEnvironment (environment : Environment) :
    Except SettingsFault Settings :=
  ofLookup environment.get?

end FieldCheck.Settings
