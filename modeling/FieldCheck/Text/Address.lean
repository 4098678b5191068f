import FieldCheck.Text.Blank

/-!
# Mail addresses

An address is a local part and a domain around an `@`.  The local part is a
chain of atoms with dots between them or a quoted text; the domain is a host
name or four short numbers in brackets.  A domain holds no `@`, so an address
can only be cut at its last one.
-/

namespace FieldCheck.Text.Address

def isAtomCharacter (character : Char) : Bool :=
  !isBlank character &&
    !(['<', '>', '(', ')', '[', ']', '\\', '.', ',', ';', ':', '@',
      '"'].contains character)

def isAtom (text : List Char) : Bool :=
  !text.isEmpty && text.all isAtomCharacter

/-- Whether a text is quoted: one character or more between quotes, and no
line feed among them. -/
def isQuoted : List Char → Bool
  | '"' :: rest =>
      rest.getLast? == some '"' && !rest.dropLast.isEmpty &&
        rest.dropLast.all (· != '\n')
  | _ => false

def isLocal (text : List Char) : Bool :=
  (text.splitOn '.').all isAtom || isQuoted text

def isShortNumber (text : List Char) : Bool :=
  !text.isEmpty && text.length ≤ 3 && text.all Char.isDigit

def isNumberGroup (text : List Char) : Bool :=
  (text.splitOn '.').length == 4 && (text.splitOn '.').all isShortNumber

def isLiteral : List Char → Bool
  | '[' :: rest => rest.getLast? == some ']' && isNumberGroup rest.dropLast
  | _ => false

def isLabel (text : List Char) : Bool :=
  !text.isEmpty && text.all (fun character =>
    character.isAlpha || character.isDigit || character == '-')

def isTopLabel (text : List Char) : Bool :=
  2 ≤ text.length && text.all Char.isAlpha

def isHost (text : List Char) : Bool :=
  let labels := text.splitOn '.'
  2 ≤ labels.length && labels.dropLast.all isLabel &&
    labels.getLast?.any isTopLabel

def isDomain (text : List Char) : Bool :=
  isLiteral text || isHost text

def cut? : List Char → Option (List Char × List Char)
  | [] => none
  | character :: rest =>
      match cut? rest with
      | some (front, back) => some (character :: front, back)
      | none => if character = '@' then some ([], rest) else none

def isAddress (text : String) : Bool :=
  (cut? text.toList).any (fun (front, back) => isLocal front && isDomain back)

end FieldCheck.Text.Address
