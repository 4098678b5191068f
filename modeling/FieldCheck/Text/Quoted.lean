import FieldCheck.Text.Printable

/-!
# Quoted text

In the journal a token stands between quotes.  The quote, the backslash and
four control characters are escaped by a letter or a zero, and a character
that cannot be read on its own is given by its code point.
-/

namespace FieldCheck.Text

/-- The code point of a character in hexadecimal digits between braces. -/
def codePointEscape (character : Char) : List Char :=
  ['\\', 'u', '\x7b'] ++ Nat.toDigits 16 character.toNat ++ ['\x7d']

def quotedForm (character : Char) : List Char :=
  match character with
  | '\x00' => ['\\', '0']
  | '\t' => ['\\', 't']
  | '\r' => ['\\', 'r']
  | '\n' => ['\\', 'n']
  | '\\' => ['\\', '\\']
  | '"' => ['\\', '"']
  | _ => if isPlain character then [character] else codePointEscape character

def quoted (text : String) : String :=
  String.ofList ('"' :: (text.toList.flatMap quotedForm ++ ['"']))

end FieldCheck.Text
