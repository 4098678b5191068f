import FieldCheck.Text.Alphanumeric
import FieldCheck.Text.Blank

/-!
# Lines of an environment file

An environment file sets one variable on a line.  The value may be bare or
between single or double quotes, which can be mixed.  A backslash escapes
outside single quotes, and a dollar sign there stands for the value of a
variable, whose name goes as far as letters and digits do, or up to a brace.
-/

namespace FieldCheck.Environment

inductive Line where
  | nothing
  | setting (name text : String)
  | broken

/-- Where the reading of a value stands.  `quoted` tells whether it goes on
between double quotes. -/
inductive ValueMode where
  | bare
  | single
  | double
  | escape (quoted : Bool)
  | variableName (quoted : Bool) (name : List Char)
  | bracedName (quoted : Bool) (name : List Char)
  | closing

def resumed (quoted : Bool) : ValueMode :=
  if quoted then .double else .bare

def escapedCharacter? : Char → Option Char
  | '\\' => some '\\'
  | '\x27' => some '\x27'
  | '"' => some '"'
  | '$' => some '$'
  | ' ' => some ' '
  | 'n' => some '\n'
  | _ => none

/-- Read a value to the end of the line.  After a blank outside quotes only a
comment may follow.  The character that ends the name of a variable stands for
itself, whatever it is, except that a dollar sign begins another variable. -/
def readValue (valueOf : List Char → List Char) :
    ValueMode → List Char → Option (List Char)
  | .bare, [] => some []
  | .closing, [] => some []
  | .escape quoted, [] => if quoted then none else some []
  | .variableName quoted name, [] =>
      if quoted then none else some (valueOf name)
  | .single, [] => none
  | .double, [] => none
  | .bracedName _ _, [] => none
  | .bare, character :: rest =>
      match character with
      | ' ' | '\t' => readValue valueOf .closing rest
      | '$' => readValue valueOf (.variableName false []) rest
      | '\x27' => readValue valueOf .single rest
      | '"' => readValue valueOf .double rest
      | '\\' => readValue valueOf (.escape false) rest
      | _ => (readValue valueOf .bare rest).map (character :: ·)
  | .single, character :: rest =>
      match character with
      | '\x27' => readValue valueOf .bare rest
      | _ => (readValue valueOf .single rest).map (character :: ·)
  | .double, character :: rest =>
      match character with
      | '$' => readValue valueOf (.variableName true []) rest
      | '"' => readValue valueOf .bare rest
      | '\\' => readValue valueOf (.escape true) rest
      | _ => (readValue valueOf .double rest).map (character :: ·)
  | .escape quoted, character :: rest =>
      match escapedCharacter? character with
      | some denoted =>
          (readValue valueOf (resumed quoted) rest).map (denoted :: ·)
      | none => none
  | .variableName quoted name, character :: rest =>
      if Text.isAlphanumeric character then
        readValue valueOf (.variableName quoted (name ++ [character])) rest
      else if character == '\x7b' && name.isEmpty then
        readValue valueOf (.bracedName quoted []) rest
      else if character == '$' then
        (readValue valueOf (.variableName quoted []) rest).map
          (valueOf name ++ ·)
      else
        (readValue valueOf (resumed quoted) rest).map
          (valueOf name ++ character :: ·)
  | .bracedName quoted name, character :: rest =>
      if character == '\x7d' then
        (readValue valueOf (resumed quoted) rest).map (valueOf name ++ ·)
      else readValue valueOf (.bracedName quoted (name ++ [character])) rest
  | .closing, character :: rest =>
      match character with
      | ' ' | '\t' => readValue valueOf .closing rest
      | '#' => some []
      | _ => none

def startsName (character : Char) : Bool :=
  character.isAlpha || character == '_'

def continuesName (character : Char) : Bool :=
  character.isAlphanum || character == '_' || character == '.'

def readName (source : List Char) : Option (List Char × List Char) :=
  match source with
  | [] => none
  | character :: _ =>
      if startsName character then
        some (source.takeWhile continuesName,
          (source.dropWhile continuesName).dropWhile Text.isBlank)
      else none

/-- Read the name of a variable and the equals sign after it.  The word
`export` may stand in front of the name; before an equals sign it is a name
itself. -/
def readNameAndSign (source : List Char) : Option (List Char × List Char) := do
  match ← readName source with
  | (name, '=' :: rest) => return (name, rest)
  | (name, rest) =>
      if name = "export".toList then
        match ← readName rest with
        | (name, '=' :: rest) => return (name, rest)
        | _ => none
      else none

def saysNothing : List Char → Bool
  | [] => true
  | '#' :: _ => true
  | _ => false

def readLine (valueOf : List Char → List Char) (line : List Char) : Line :=
  let source := Text.trimmed line
  if saysNothing source then .nothing
  else
    match readNameAndSign source with
    | none => .broken
    | some (name, rest) =>
        let value := rest.dropWhile Text.isBlank
        if saysNothing value then .setting (String.ofList name) ""
        else
          match readValue valueOf .bare value with
          | some text => .setting (String.ofList name) (String.ofList text)
          | none => .broken

end FieldCheck.Environment
