import FieldCheck.Json

/-!
# Reading JSON

The reader accepts the JSON grammar and nothing else: four blank characters,
no control characters in texts, no superfluous zeros, no final commas, and one
value in a document.  Each step takes a list of characters and gives back what
it has read and the rest.
-/

namespace FieldCheck.Json

def isSpace (character : Char) : Bool :=
  character == ' ' || character == '\t' || character == '\n' ||
    character == '\r'

def skipSpace (source : List Char) : List Char :=
  source.dropWhile isSpace

def hexValue? (digit : Char) : Option Nat :=
  if '0' ≤ digit ∧ digit ≤ '9' then some (digit.toNat - '0'.toNat)
  else if 'a' ≤ digit ∧ digit ≤ 'f' then some (digit.toNat - 'a'.toNat + 10)
  else if 'A' ≤ digit ∧ digit ≤ 'F' then some (digit.toNat - 'A'.toNat + 10)
  else none

def hexValue4? (first second third fourth : Char) : Option Nat := do
  let first ← hexValue? first
  let second ← hexValue? second
  let third ← hexValue? third
  let fourth ← hexValue? fourth
  return ((first * 16 + second) * 16 + third) * 16 + fourth

/-- A part of a written text: a character, or a UTF-16 unit named by an
escape. -/
inductive Piece where
  | plain (character : Char)
  | unit (code : Nat)

def escape? : Char → Option Char
  | '"' => some '"'
  | '\\' => some '\\'
  | '/' => some '/'
  | 'b' => some '\x08'
  | 'f' => some '\x0c'
  | 'n' => some '\n'
  | 'r' => some '\r'
  | 't' => some '\t'
  | _ => none

def readPieces : List Char → Option (List Piece × List Char)
  | [] => none
  | '"' :: rest => some ([], rest)
  | '\\' :: 'u' :: first :: second :: third :: fourth :: rest => do
      let code ← hexValue4? first second third fourth
      let (pieces, rest) ← readPieces rest
      return (.unit code :: pieces, rest)
  | '\\' :: letter :: rest => do
      let character ← escape? letter
      let (pieces, rest) ← readPieces rest
      return (.plain character :: pieces, rest)
  | character :: rest => do
      if character == '\\' || character.toNat < 0x20 then none
      else
        let (pieces, rest) ← readPieces rest
        return (.plain character :: pieces, rest)

def isHighSurrogate (code : Nat) : Bool :=
  0xD800 ≤ code && code ≤ 0xDBFF

def isLowSurrogate (code : Nat) : Bool :=
  0xDC00 ≤ code && code ≤ 0xDFFF

/-- Join pieces to the characters that they denote.  A first half of a
surrogate pair must be followed by an escaped second half. -/
def joinPieces : List Piece → Option (List Char)
  | [] => some []
  | .plain character :: pieces => (joinPieces pieces).map (character :: ·)
  | .unit high :: .unit low :: pieces =>
      if isHighSurrogate high then
        if isLowSurrogate low then
          let code := 0x10000 + (high - 0xD800) * 0x400 + (low - 0xDC00)
          (joinPieces pieces).map (Char.ofNat code :: ·)
        else none
      else if isLowSurrogate high then none
      else (joinPieces (.unit low :: pieces)).map (Char.ofNat high :: ·)
  | .unit code :: pieces =>
      if isHighSurrogate code || isLowSurrogate code then none
      else (joinPieces pieces).map (Char.ofNat code :: ·)

def readText (source : List Char) : Option (Option String × List Char) :=
  (readPieces source).map
    (fun (pieces, rest) => ((joinPieces pieces).map String.ofList, rest))

def readDigits (source : List Char) : Option (List Char × List Char) :=
  let digits := source.takeWhile Char.isDigit
  if digits.isEmpty then none else some (digits, source.dropWhile Char.isDigit)

def readWhole : List Char → Option (List Char × List Char)
  | '0' :: rest => some (['0'], rest)
  | source => readDigits source

def readFraction : List Char → Option (List Char × List Char)
  | '.' :: rest =>
      (readDigits rest).map (fun (digits, rest) => ('.' :: digits, rest))
  | source => some ([], source)

def readExponent : List Char → Option (List Char × List Char)
  | [] => some ([], [])
  | mark :: rest =>
      if mark == 'e' || mark == 'E' then
        match rest with
        | '+' :: rest =>
            (readDigits rest).map
              (fun (digits, rest) => (mark :: '+' :: digits, rest))
        | '-' :: rest =>
            (readDigits rest).map
              (fun (digits, rest) => (mark :: '-' :: digits, rest))
        | rest =>
            (readDigits rest).map
              (fun (digits, rest) => (mark :: digits, rest))
      else some ([], mark :: rest)

def readMagnitude (source : List Char) : Option (List Char × List Char) := do
  let (whole, rest) ← readWhole source
  let (fraction, rest) ← readFraction rest
  let (exponent, rest) ← readExponent rest
  return (whole ++ fraction ++ exponent, rest)

def readNumber : List Char → Option (List Char × List Char)
  | '-' :: rest =>
      (readMagnitude rest).map (fun (literal, rest) => ('-' :: literal, rest))
  | source => readMagnitude source

mutual

/-- Read a value.  The first argument bounds the number of steps. -/
def readValue : Nat → List Char → Option (Json × List Char)
  | 0, _ => none
  | steps + 1, source =>
      match skipSpace source with
      | 'n' :: 'u' :: 'l' :: 'l' :: rest => some (.null, rest)
      | 't' :: 'r' :: 'u' :: 'e' :: rest => some (.flag true, rest)
      | 'f' :: 'a' :: 'l' :: 's' :: 'e' :: rest => some (.flag false, rest)
      | '"' :: rest =>
          (readText rest).map (fun (content?, rest) => (.text content?, rest))
      | '[' :: rest =>
          match skipSpace rest with
          | ']' :: rest => some (.list [], rest)
          | rest =>
              (readItems steps rest).map
                (fun (items, rest) => (.list items, rest))
      | '\x7b' :: rest =>
          match skipSpace rest with
          | '\x7d' :: rest => some (.object [], rest)
          | rest =>
              (readMembers steps rest).map
                (fun (members, rest) => (.object members, rest))
      | source =>
          (readNumber source).map
            (fun (literal, rest) => (.number (String.ofList literal), rest))

/-- Read the items of a list, of which there is one at least. -/
def readItems : Nat → List Char → Option (List Json × List Char)
  | 0, _ => none
  | steps + 1, source => do
      let (item, rest) ← readValue steps source
      match skipSpace rest with
      | ']' :: rest => return ([item], rest)
      | ',' :: rest =>
          let (items, rest) ← readItems steps rest
          return (item :: items, rest)
      | _ => none

def readMembers :
    Nat → List Char → Option (List (Option String × Json) × List Char)
  | 0, _ => none
  | steps + 1, source => do
      match skipSpace source with
      | '"' :: rest =>
          let (name, rest) ← readText rest
          match skipSpace rest with
          | ':' :: rest =>
              let (value, rest) ← readValue steps rest
              match skipSpace rest with
              | '\x7d' :: rest => return ([(name, value)], rest)
              | ',' :: rest =>
                  let (members, rest) ← readMembers steps rest
                  return ((name, value) :: members, rest)
              | _ => none
          | _ => none
      | _ => none

end

/-- Read a document.  Every step is paid for by a character of its own: a
bracket on either side, a separator, or a character of a scalar.  The length
of the document is therefore a bound for the number of steps. -/
def read? (document : String) : Option Json :=
  match readValue (document.length + 1) document.toList with
  | some (json, rest) => if (skipSpace rest).isEmpty then some json else none
  | none => none

end FieldCheck.Json
