import FieldCheck.Settings.JsonDocument
import FieldCheck.Toml.Reader

/-!
# Settings as TOML

A settings document is a table with up to three known entries, in any order;
unknown entries are passed over.  That no key stands twice is already so in
every TOML document.
-/

namespace FieldCheck.Settings

def isVoid : Toml → Bool
  | .list items => items.isEmpty
  | .table _ entries => entries.isEmpty
  | _ => false

/-- Read a policy, given as its name or as a table in which its name has a
value that holds nothing. -/
def presenceOfToml? : Toml → Option Presence
  | .text name => Presence.ofText? name
  | .table _ [(name, value)] =>
      if isVoid value then Presence.ofText? name else none
  | _ => none

def namedTomlText? : String × Toml → Option (String × String)
  | (name, .text template) => some (name, template)
  | _ => none

/-- The name under which a point in time counts as an entry of a table. -/
def momentName : String :=
  "$__toml_private_datetime"

/-- Read templates by their names.  A point in time counts as a table with
itself as the only entry. -/
def templatesOfToml? : Toml → Option (Dictionary String)
  | .table _ entries => (entries.mapM namedTomlText?).map Dictionary.ofPairs
  | .moment literal => some (Dictionary.ofPairs [(momentName, literal)])
  | _ => none

def Draft.addToml? (draft : Draft) : Member → Toml → Option Draft
  | .presence, value =>
      if draft.presence?.isSome then none
      else (presenceOfToml? value).map
        (fun presence => { draft with presence? := some presence })
  | .logFailures, .flag truth =>
      if draft.logFailures?.isSome then none
      else some { draft with logFailures? := some truth }
  | .logFailures, _ => none
  | .messages, value =>
      if draft.messages?.isSome then none
      else (templatesOfToml? value).map
        (fun messages => { draft with messages? := some messages })

def draftOfEntries? (draft : Draft) : Toml.Entries → Option Draft
  | [] => some draft
  | (name, value) :: rest =>
      match Member.ofText? name with
      | none => draftOfEntries? draft rest
      | some member =>
          (draft.addToml? member value).bind (draftOfEntries? · rest)

def ofToml? (entries : Toml.Entries) : Option Settings :=
  (draftOfEntries? .blank entries).map Draft.settings

def ofTomlText (document : String) : Except SettingsFault Settings :=
  match (Toml.read? document).bind ofToml? with
  | some settings => settings.checked
  | none => .error (.malformed .toml)

end FieldCheck.Settings
