import FieldCheck.Json

/-!
# Writing JSON

The written form has no blanks.  In a text the quote, the backslash and the
control characters below U+0020 are escaped; five of these have a letter of
their own and the others are given by four hexadecimal digits.  Every other
character stands for itself.
-/

namespace FieldCheck.Json

def hexDigit (digit : Nat) : Char :=
  if digit < 10 then Char.ofNat ('0'.toNat + digit)
  else Char.ofNat ('a'.toNat + (digit - 10))

def escaped (character : Char) : List Char :=
  match character with
  | '"' => ['\\', '"']
  | '\\' => ['\\', '\\']
  | '\n' => ['\\', 'n']
  | '\r' => ['\\', 'r']
  | '\t' => ['\\', 't']
  | '\x08' => ['\\', 'b']
  | '\x0c' => ['\\', 'f']
  | _ =>
      if character.toNat < 0x20 then
        ['\\', 'u', '0', '0', hexDigit (character.toNat / 16),
          hexDigit (character.toNat % 16)]
      else
        [character]

def quoted (content : String) : List Char :=
  '"' :: (content.toList.flatMap escaped ++ ['"'])

/-- The written form of a text that may hold half of a surrogate pair. -/
def quoted? : Option String → List Char
  | some content => quoted content
  | none => "\"\\ud800\"".toList

def separated : List (List Char) → List Char
  | [] => []
  | [only] => only
  | first :: rest => first ++ ',' :: separated rest

mutual

def characters : Json → List Char
  | .null => "null".toList
  | .flag true => "true".toList
  | .flag false => "false".toList
  | .number literal => literal.toList
  | .text content? => quoted? content?
  | .list items => '[' :: (separated (itemCharacters items) ++ [']'])
  | .object members =>
      '\x7b' :: (separated (memberCharacters members) ++ ['\x7d'])

def itemCharacters : List Json → List (List Char)
  | [] => []
  | item :: items => characters item :: itemCharacters items

def memberCharacters : List (Option String × Json) → List (List Char)
  | [] => []
  | (name, value) :: members =>
      (quoted? name ++ ':' :: characters value) :: memberCharacters members

end

def write (json : Json) : String :=
  String.ofList json.characters

end FieldCheck.Json
