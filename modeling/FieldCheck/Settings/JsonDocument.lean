import FieldCheck.Json.Reader
import FieldCheck.Json.Writer
import FieldCheck.Settings

/-!
# Settings as JSON

A settings document is an object with up to three known members, in any order.
A known member may not be repeated; unknown members are passed over with all
they hold.  Instead of an object a list may be written, whose items stand for
the members in their order and may be missing from the end.
-/

namespace FieldCheck.Settings

inductive Member where
  | presence
  | logFailures
  | messages
deriving DecidableEq

namespace Member

def text : Member → String
  | .presence => "integer_presence"
  | .logFailures => "log_failures"
  | .messages => "messages"

def ofText? (name : String) : Option Member :=
  [presence, logFailures, messages].find? (·.text == name)

end Member

structure Draft where
  presence? : Option Presence
  logFailures? : Option Bool
  messages? : Option (Dictionary String)

namespace Draft

def blank : Draft :=
  ⟨none, none, none⟩

/-- The settings of a draft; what has not been read is standard. -/
def settings (draft : Draft) : Settings :=
  ⟨draft.presence?.getD standard.presence,
    draft.logFailures?.getD standard.logFailures,
    draft.messages?.getD standard.messages⟩

end Draft

/-- Read a policy, given as its name or as an object with its name and the
value `null`. -/
def presenceOfJson? : Json → Option Presence
  | .text (some name) => Presence.ofText? name
  | .object [(some name, .null)] => Presence.ofText? name
  | _ => none

def namedText? : Option String × Json → Option (String × String)
  | (some name, .text (some template)) => some (name, template)
  | _ => none

/-- Read templates by their names; the last template of a name stays. -/
def templatesOfJson? : Json → Option (Dictionary String)
  | .object members => (members.mapM namedText?).map Dictionary.ofPairs
  | _ => none

def Draft.addJson? (draft : Draft) : Member → Json → Option Draft
  | .presence, json =>
      if draft.presence?.isSome then none
      else (presenceOfJson? json).map
        (fun presence => { draft with presence? := some presence })
  | .logFailures, json =>
      if draft.logFailures?.isSome then none
      else json.truth?.map
        (fun truth => { draft with logFailures? := some truth })
  | .messages, json =>
      if draft.messages?.isSome then none
      else (templatesOfJson? json).map
        (fun messages => { draft with messages? := some messages })

def draftOfMembers? (draft : Draft) :
    List (Option String × Json) → Option Draft
  | [] => some draft
  | (none, _) :: _ => none
  | (some name, json) :: rest =>
      match Member.ofText? name with
      | none => draftOfMembers? draft rest
      | some member =>
          (draft.addJson? member json).bind (draftOfMembers? · rest)

def draftOfItems? : List Json → Option Draft
  | [] => some .blank
  | [presence] => Draft.blank.addJson? .presence presence
  | [presence, logFailures] =>
      (draftOfItems? [presence]).bind (·.addJson? .logFailures logFailures)
  | [presence, logFailures, messages] =>
      (draftOfItems? [presence, logFailures]).bind
        (·.addJson? .messages messages)
  | _ => none

def ofJson? : Json → Option Settings
  | .object members => (draftOfMembers? .blank members).map Draft.settings
  | .list items => (draftOfItems? items).map Draft.settings
  | _ => none

def ofJsonText (document : String) : Except SettingsFault Settings :=
  match (Json.read? document).bind ofJson? with
  | some settings => settings.checked
  | none => .error (.malformed .json)

def toJson (settings : Settings) : Json :=
  .ofMembers
    [(Member.presence.text, .ofString settings.presence.text),
      (Member.logFailures.text, .flag settings.logFailures),
      (Member.messages.text, .ofMembers (settings.messages.entries.map
        (fun entry => (entry.1, .ofString entry.2))))]

/-- Whether settings can be written as JSON and read again unchanged. -/
def roundTrips (settings : Settings) : Bool :=
  match ofJsonText settings.toJson.write with
  | .ok again => again = settings
  | .error _ => false

end FieldCheck.Settings
