import FieldCheck.Json.Reader
import FieldCheck.Text.Identifier

/-!
# Literals

A literal is a text, a string of bytes, a text that ends with a zero, a single
character or byte, or a number.  The functions here find the end of a literal
that stands in front: each gives the rest after it, or nothing.  A word may be
appended to any literal as its type.
-/

namespace FieldCheck.Binding.Literal

/-- What quoted literals hold: characters, bytes, or characters other than the
zero. -/
inductive Content where
  | characters
  | bytes
  | nonzero
deriving DecidableEq

namespace Content

def admits : Content → Char → Bool
  | .characters, _ => true
  | .bytes, character => character.toNat < 0x80
  | .nonzero, character => character.toNat != 0

def admitsLetter (content : Content) (letter : Char) : Bool :=
  ['n', 'r', 't', '\\', '\x27', '"'].contains letter ||
    (letter == '0' && content != .nonzero)

def admitsCode : Content → Nat → Bool
  | .characters, code => code < 0x80
  | .bytes, _ => true
  | .nonzero, code => code != 0

def admitsBraced : Content → Nat → Bool
  | .characters, _ => true
  | .bytes, _ => false
  | .nonzero, code => code != 0

end Content

/-- Read a code point up to its closing brace: one to six hexadecimal digits,
with underscores after the first. -/
def readCode? (code digits : Nat) : List Char → Option (Nat × List Char)
  | [] => none
  | character :: rest =>
      if character == '\x7d' then
        if 0 < digits ∧ code.isValidChar then some (code, rest) else none
      else if character == '_' then
        if 0 < digits then readCode? code digits rest else none
      else
        match Json.hexValue? character with
        | some value =>
            if digits = 6 then none
            else readCode? (16 * code + value) (digits + 1) rest
        | none => none

def afterEscape? (content : Content) : List Char → Option (List Char)
  | 'x' :: high :: low :: rest => do
      let code := 16 * (← Json.hexValue? high) + (← Json.hexValue? low)
      if content.admitsCode code then some rest else none
  | 'u' :: '\x7b' :: rest => do
      let (code, rest) ← readCode? 0 0 rest
      if content.admitsBraced code then some rest else none
  | letter :: rest => if content.admitsLetter letter then some rest else none
  | [] => none

/-- The rest after the quote that ends a literal with escapes.  A backslash may
stand before the end of a line, and a carriage return only before a line feed.
The first argument bounds the number of steps. -/
def afterQuoted? (content : Content) : Nat → List Char → Option (List Char)
  | 0, _ => none
  | _ + 1, [] => none
  | _ + 1, '"' :: rest => some rest
  | steps + 1, '\r' :: '\n' :: rest => afterQuoted? content steps rest
  | _ + 1, '\r' :: _ => none
  | steps + 1, '\\' :: '\n' :: rest => afterQuoted? content steps rest
  | steps + 1, '\\' :: '\r' :: '\n' :: rest => afterQuoted? content steps rest
  | steps + 1, '\\' :: rest =>
      (afterEscape? content rest).bind (afterQuoted? content steps)
  | steps + 1, character :: rest =>
      if content.admits character then afterQuoted? content steps rest
      else none

/-- The rest after the quote and the hashes that end a literal without
escapes. -/
def afterHashes? (content : Content) (hashes : List Char) :
    List Char → Option (List Char)
  | [] => none
  | '\r' :: '\n' :: rest => afterHashes? content hashes rest
  | '\r' :: _ => none
  | character :: rest =>
      if character == '"' && hashes.isPrefixOf rest then
        some (rest.drop hashes.length)
      else if content.admits character then afterHashes? content hashes rest
      else none

/-- The rest after a literal without escapes, from the hashes in front of its
quote on.  There are at most 255 of them. -/
def afterRaw? (content : Content) (source : List Char) :
    Option (List Char) :=
  let hashes := source.takeWhile (· == '#')
  match source.dropWhile (· == '#') with
  | '"' :: rest =>
      if hashes.length ≤ 255 then afterHashes? content hashes rest else none
  | _ => none

def afterSingle? (content : Content) (source : List Char) :
    Option (List Char) := do
  let rest ← match source with
    | '\\' :: rest => afterEscape? content rest
    | character :: rest => if content.admits character then some rest else none
    | [] => none
  match rest with
  | '\x27' :: rest => some rest
  | _ => none

def afterText? (source : List Char) : Option (List Char) :=
  let steps := source.length + 1
  match source with
  | '"' :: rest => afterQuoted? .characters steps rest
  | 'r' :: rest => afterRaw? .characters rest
  | 'b' :: '"' :: rest => afterQuoted? .bytes steps rest
  | 'b' :: 'r' :: rest => afterRaw? .bytes rest
  | 'c' :: '"' :: rest => afterQuoted? .nonzero steps rest
  | 'c' :: 'r' :: rest => afterRaw? .nonzero rest
  | 'b' :: '\x27' :: rest => afterSingle? .bytes rest
  | '\x27' :: rest => afterSingle? .characters rest
  | _ => none

def afterType (source : List Char) : List Char :=
  match source with
  | [] => []
  | character :: rest =>
      if Text.startsIdentifier character then
        rest.dropWhile Text.continuesIdentifier
      else source

def isSpacedDigit (character : Char) : Bool :=
  character.isDigit || character == '_'

/-- The rest after an exponent, without its letter: a sign may stand in front,
and underscores anywhere. -/
def afterExponent? (source : List Char) : Option (List Char) :=
  let unsigned :=
    match source.dropWhile (· == '_') with
    | '+' :: rest => rest
    | '-' :: rest => rest
    | rest => rest
  match unsigned.dropWhile (· == '_') with
  | digit :: rest =>
      if digit.isDigit then some (rest.dropWhile isSpacedDigit) else none
  | [] => none

/-- The rest after a point and the digits behind it.  No word and no other
point may follow the point at once. -/
def afterPoint? : List Char → Option (List Char)
  | '.' :: next :: rest =>
      if next == '.' || Text.startsIdentifier next then none
      else some ((next :: rest).dropWhile isSpacedDigit)
  | '.' :: [] => some []
  | _ => none

def afterFraction? (source : List Char) : Option (List Char) :=
  let withExponent? (source : List Char) : Option (List Char) :=
    match source with
    | 'e' :: rest => afterExponent? rest
    | 'E' :: rest => afterExponent? rest
    | _ => none
  match source with
  | [] => none
  | digit :: _ =>
      if digit.isDigit then
        let tail := source.dropWhile isSpacedDigit
        match tail with
        | '.' :: _ =>
            (afterPoint? tail).map (fun rest =>
              (withExponent? rest).getD rest)
        | tail => withExponent? tail
      else none

/-- The rest after the digits of a whole number in a base.  A decimal digit
that is too large is an error, and a letter that is too large ends the
number. -/
def afterDigits? (base : Nat) (source : List Char) : Option (List Char) :=
  let isDigit (character : Char) : Bool :=
    character == '_' || (Json.hexValue? character).any (· < base)
  let digits := source.takeWhile isDigit
  let rest := source.dropWhile isDigit
  if digits.all (· == '_') || (base == 10 && digits.head? == some '_') ||
      rest.head?.any Char.isDigit then none
  else some rest

def afterWhole? (source : List Char) : Option (List Char) :=
  match source with
  | '0' :: 'x' :: rest => afterDigits? 16 rest
  | '0' :: 'o' :: rest => afterDigits? 8 rest
  | '0' :: 'b' :: rest => afterDigits? 2 rest
  | _ => afterDigits? 10 source

def afterNumber? (number? : Option (List Char)) : Option (List Char) :=
  number?.bind (fun rest =>
    let rest := afterType rest
    if rest.head?.any Text.continuesIdentifier then none else some rest)

def after? (source : List Char) : Option (List Char) :=
  ((afterText? source).map afterType).or
    ((afterNumber? (afterFraction? source)).or
      (afterNumber? (afterWhole? source)))

end FieldCheck.Binding.Literal
