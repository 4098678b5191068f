import FieldCheck.Dictionary
import FieldCheck.Message.Catalog
import FieldCheck.Presence

/-!
# Settings

The settings choose what presence means for numbers, whether failures are
written to the journal, and which templates replace the default ones.  The
templates are kept under the names they were given; settings can be put to use
only when every name is that of a kind of message.
-/

namespace FieldCheck

inductive DocumentFormat where
  | json
  | toml
deriving DecidableEq

namespace DocumentFormat

def ofExtension? (extension : String) : Option DocumentFormat :=
  match Text.lowered extension with
  | "json" => some .json
  | "toml" => some .toml
  | _ => none

def title : DocumentFormat → String
  | .json => "JSON"
  | .toml => "TOML"

end DocumentFormat

inductive ReadFault where
  | notFound
  | isDirectory
  | invalidData
deriving DecidableEq

def ReadFault.text : ReadFault → String
  | .notFound => "no such file"
  | .isDirectory => "is a directory"
  | .invalidData => "not valid UTF-8"

inductive SettingsFault where
  | noExtension
  | unsupportedFormat (extension : String)
  | malformed (format : DocumentFormat)
  | unknownKind (name : String)
  | invalidValue (name value : String)
  | unreadable (cause : ReadFault)
deriving DecidableEq

namespace SettingsFault

/-- The text shown for a fault.  Of a malformed document no more is said than
its format. -/
def message : SettingsFault → String
  | .noExtension => "Failed to load configuration: No file extension found"
  | .unsupportedFormat extension =>
      "Failed to load configuration: Unsupported format: " ++ extension
  | .malformed format => format.title ++ " parse error"
  | .unknownKind name => "Unknown message kind: " ++ name
  | .invalidValue name value =>
      "Invalid value for " ++ name ++ ": " ++ value
  | .unreadable cause => "IO error: " ++ cause.text

end SettingsFault

/-- The settings of a validator. -/
structure Settings where
  presence : Presence
  logFailures : Bool
  messages : Dictionary String
deriving DecidableEq

namespace Settings

def standard : Settings :=
  ⟨Presence.standard, true, Dictionary.empty⟩

def withPresence (settings : Settings) (presence : Presence) : Settings :=
  { settings with presence := presence }

def withLogFailures (settings : Settings) (enabled : Bool) : Settings :=
  { settings with logFailures := enabled }

def withNamedMessage (settings : Settings) (name template : String) :
    Settings :=
  { settings with messages := settings.messages.insert name template }

def withMessage (settings : Settings) (kind : Message.Kind)
    (template : String) : Settings :=
  settings.withNamedMessage kind.text template

/-- Add named templates to a catalog, up to the first name that is none of a
kind of message. -/
def addTemplates :
    List (String × String) → Message.Catalog →
      Except SettingsFault Message.Catalog
  | [], catalog => .ok catalog
  | (name, template) :: rest, catalog =>
      match Message.Kind.ofText? name with
      | none => .error (.unknownKind name)
      | some kind => addTemplates rest (catalog.set kind template)

/-- The catalog that the settings describe.  Of several unknown names the
first in the order of the keys is reported. -/
def catalog (settings : Settings) : Except SettingsFault Message.Catalog :=
  addTemplates settings.messages.entries .standard

/-- The settings themselves, provided that they describe a catalog. -/
def checked (settings : Settings) : Except SettingsFault Settings :=
  settings.catalog.map (fun _ => settings)

end Settings

end FieldCheck
