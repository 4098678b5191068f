import FieldCheck.Environment.File
import FieldCheck.Settings.JsonDocument
import FieldCheck.Settings.TomlDocument
import FieldCheck.Settings.Variables

/-!
# Settings from files

The extension of a file name decides in which format the file is read.  A name
without an extension, or with an unknown one, is refused before the file is
looked at.
-/

namespace FieldCheck.Settings

inductive FileContent where
  | missing
  | directory
  | bytes (content : ByteArray)

/-- The parts of a path, of which an empty one and a dot do not count. -/
def pathParts (path : String) : List (List Char) :=
  (path.toList.splitOn '/').filter (fun part => part != [] && part != ['.'])

/-- The extension of a file name: what comes after its last dot, unless the
name begins with that dot. -/
def extensionOfName? (name : List Char) : Option (List Char) :=
  let extension := name.reverse.takeWhile (· != '.')
  let front := name.reverse.dropWhile (· != '.')
  if front.length ≤ 1 then none else some extension.reverse

/-- The extension of the last part of a path; the parent directory has none. -/
def extension? (path : String) : Option String :=
  match (pathParts path).getLast? with
  | none => none
  | some name =>
      if name = ['.', '.'] then none
      else (extensionOfName? name).map String.ofList

def ofDocument : DocumentFormat → String → Except SettingsFault Settings
  | .json, document => ofJsonText document
  | .toml, document => ofTomlText document

def FileContent.text : FileContent → Except SettingsFault String
  | .missing => .error (.unreadable .notFound)
  | .directory => .error (.unreadable .isDirectory)
  | .bytes content =>
      match String.fromUTF8? content with
      | some text => .ok text
      | none => .error (.unreadable .invalidData)

def formatOfPath (path : String) : Except SettingsFault DocumentFormat :=
  match extension? path with
  | none => .error .noExtension
  | some extension =>
      match DocumentFormat.ofExtension? extension with
      | some format => .ok format
      | none => .error (.unsupportedFormat extension)

def ofFile (path : String) (content : FileContent) :
    Except SettingsFault Settings := do
  let format ← formatOfPath path
  let document ← content.text
  ofDocument format document

def ofEnvironmentAndFile (environment : Environment) (file? : Option String) :
    Except SettingsFault Settings :=
  match file? with
  | none => ofEnvironment environment
  | some file => ofEnvironment (environment.load file)

end FieldCheck.Settings
