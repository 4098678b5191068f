import FieldCheck.Json.Reader

/-!
# TOML texts

A text is quoted once, and then ends on its line, or three times, and then may
go over several lines.  Between double quotes a backslash escapes; between
single quotes every character stands for itself.  Control characters other
than the tab are not allowed.
-/

namespace FieldCheck.Toml

/-- What a step of the reader gives: the characters read, and the rest. -/
abbrev TextStep := Option (List Char × List Char)

def TextStep.prepend (characters : List Char) (step : TextStep) : TextStep :=
  step.map (fun (content, rest) => (characters ++ content, rest))

def isTextCharacter (character : Char) : Bool :=
  character == '\t' || (0x20 ≤ character.toNat && character.toNat != 0x7F)

def isLineBlank (character : Char) : Bool :=
  character == ' ' || character == '\t'

def letterEscape? : Char → Option Char
  | '"' => some '"'
  | '\\' => some '\\'
  | 'b' => some '\x08'
  | 'e' => some '\x1b'
  | 'f' => some '\x0c'
  | 'n' => some '\n'
  | 'r' => some '\r'
  | 't' => some '\t'
  | _ => none

def codePoint? (digits : List Char) : Option Char :=
  let code? := digits.foldl
    (fun total? digit => do
      let total ← total?
      let value ← Json.hexValue? digit
      return 16 * total + value)
    (some 0)
  code?.bind (fun code =>
    if code.isValidChar then some (Char.ofNat code) else none)

def readBasic : List Char → TextStep
  | [] => none
  | '"' :: rest => some ([], rest)
  | '\\' :: 'x' :: d1 :: d2 :: rest => do
      let character ← codePoint? [d1, d2]
      TextStep.prepend [character] (readBasic rest)
  | '\\' :: 'u' :: d1 :: d2 :: d3 :: d4 :: rest => do
      let character ← codePoint? [d1, d2, d3, d4]
      TextStep.prepend [character] (readBasic rest)
  | '\\' :: 'U' :: d1 :: d2 :: d3 :: d4 :: d5 :: d6 :: d7 :: d8 :: rest => do
      let character ← codePoint? [d1, d2, d3, d4, d5, d6, d7, d8]
      TextStep.prepend [character] (readBasic rest)
  | '\\' :: letter :: rest => do
      let character ← letterEscape? letter
      TextStep.prepend [character] (readBasic rest)
  | character :: rest =>
      if isTextCharacter character && character != '\\' then
        TextStep.prepend [character] (readBasic rest)
      else none

def readLiteral : List Char → TextStep
  | [] => none
  | '\x27' :: rest => some ([], rest)
  | character :: rest =>
      if isTextCharacter character then
        TextStep.prepend [character] (readLiteral rest)
      else none

def endsLine (source : List Char) : Bool :=
  match source.dropWhile isLineBlank with
  | '\n' :: _ => true
  | '\r' :: '\n' :: _ => true
  | _ => false

/-- Read a text in three double quotes, after them.  A backslash at the end of
a line joins it with the next text, and while `joining` blanks and line ends
are left out.  Up to two quotes may stand before the closing ones. -/
def readLines (joining : Bool) : List Char → TextStep
  | [] => none
  | '"' :: '"' :: '"' :: '"' :: '"' :: rest => some (['"', '"'], rest)
  | '"' :: '"' :: '"' :: '"' :: rest => some (['"'], rest)
  | '"' :: '"' :: '"' :: rest => some ([], rest)
  | '\\' :: 'x' :: d1 :: d2 :: rest => do
      let character ← codePoint? [d1, d2]
      TextStep.prepend [character] (readLines false rest)
  | '\\' :: 'u' :: d1 :: d2 :: d3 :: d4 :: rest => do
      let character ← codePoint? [d1, d2, d3, d4]
      TextStep.prepend [character] (readLines false rest)
  | '\\' :: 'U' :: d1 :: d2 :: d3 :: d4 :: d5 :: d6 :: d7 :: d8 :: rest => do
      let character ← codePoint? [d1, d2, d3, d4, d5, d6, d7, d8]
      TextStep.prepend [character] (readLines false rest)
  | '\\' :: letter :: rest =>
      if endsLine (letter :: rest) then readLines true (letter :: rest)
      else do
        let character ← letterEscape? letter
        TextStep.prepend [character] (readLines false rest)
  | '\r' :: '\n' :: rest =>
      if joining then readLines true rest
      else TextStep.prepend ['\r', '\n'] (readLines false rest)
  | character :: rest =>
      if joining && (isLineBlank character || character == '\n') then
        readLines true rest
      else if character == '\n' ||
          (isTextCharacter character && character != '\\') then
        TextStep.prepend [character] (readLines false rest)
      else none

def readLiteralLines : List Char → TextStep
  | [] => none
  | '\x27' :: '\x27' :: '\x27' :: '\x27' :: '\x27' :: rest =>
      some (['\x27', '\x27'], rest)
  | '\x27' :: '\x27' :: '\x27' :: '\x27' :: rest => some (['\x27'], rest)
  | '\x27' :: '\x27' :: '\x27' :: rest => some ([], rest)
  | '\r' :: '\n' :: rest =>
      TextStep.prepend ['\r', '\n'] (readLiteralLines rest)
  | character :: rest =>
      if character == '\n' || isTextCharacter character then
        TextStep.prepend [character] (readLiteralLines rest)
      else none

def skipFirstLineEnd : List Char → List Char
  | '\n' :: rest => rest
  | '\r' :: '\n' :: rest => rest
  | rest => rest

end FieldCheck.Toml
