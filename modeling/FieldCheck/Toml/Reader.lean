import FieldCheck.Toml.Scalar
import FieldCheck.Toml.Text

/-!
# Reading TOML

A document is a sequence of lines: headers, which say what table the lines
after them belong to, and entries with a key and a value.  Lists and inline
tables may go over several lines, with comments, and a comma may follow their
last item.  They may be nested eighty deep, and a key may have eighty parts.
-/

namespace FieldCheck.Toml

def skipBlanks (source : List Char) : List Char :=
  source.dropWhile isLineBlank

mutual

def skipLines : List Char → Option (List Char)
  | [] => some []
  | '#' :: rest => skipComment rest
  | '\r' :: '\n' :: rest => skipLines rest
  | character :: rest =>
      if isLineBlank character || character == '\n' then skipLines rest
      else some (character :: rest)

def skipComment : List Char → Option (List Char)
  | [] => some []
  | '\n' :: rest => skipLines rest
  | '\r' :: '\n' :: rest => skipLines rest
  | character :: rest =>
      if isTextCharacter character then skipComment rest else none

end

/-- The lines after the present one, on which only blanks and a comment may
follow. -/
def nextLine (source : List Char) : Option (List Char) :=
  let rest := skipBlanks source
  let rest :=
    match rest with
    | '#' :: comment => comment.dropWhile isTextCharacter
    | rest => rest
  match rest with
  | [] => some []
  | '\n' :: rest => some rest
  | '\r' :: '\n' :: rest => some rest
  | _ => none

def isBareCharacter (character : Char) : Bool :=
  character.isAlphanum || character == '-' || character == '_'

def readKeyPart (source : List Char) : Option (String × List Char) :=
  match source with
  | '"' :: rest =>
      (readBasic rest).map
        (fun (content, rest) => (String.ofList content, rest))
  | '\x27' :: rest =>
      (readLiteral rest).map
        (fun (content, rest) => (String.ofList content, rest))
  | source =>
      let bare := source.takeWhile isBareCharacter
      if bare.isEmpty then none
      else some (String.ofList bare, source.dropWhile isBareCharacter)

def readKeyUpTo : Nat → List Char → Option (List String × List Char)
  | 0, _ => none
  | parts + 1, source => do
      let (first, rest) ← readKeyPart (skipBlanks source)
      match skipBlanks rest with
      | '.' :: rest =>
          let (path, rest) ← readKeyUpTo parts rest
          return (first :: path, rest)
      | rest => return ([first], rest)

/-- How deep lists and inline tables may be nested, and how many parts a key
may have. -/
def greatestDepth : Nat :=
  80

def readKey (source : List Char) : Option (List String × List Char) :=
  readKeyUpTo greatestDepth source

def readKeyAndSign (source : List Char) :
    Option (List String × List Char) := do
  let (path, rest) ← readKey source
  match rest with
  | '=' :: rest => return (path, skipBlanks rest)
  | _ => none

def readInlineKeyAndSign (source : List Char) :
    Option (List String × List Char) := do
  let (path, rest) ← readKey source
  match ← skipLines rest with
  | '=' :: rest => return (path, ← skipLines rest)
  | _ => none

mutual

/-- Read a value.  The first argument bounds the number of steps and the
second one the depth of lists and inline tables. -/
def readValue : Nat → Nat → List Char → Option (Toml × List Char)
  | 0, _, _ => none
  | steps + 1, depth, source =>
      match source with
      | '"' :: '"' :: '"' :: rest =>
          (readLines false (skipFirstLineEnd rest)).map
            (fun (content, rest) => (.text (String.ofList content), rest))
      | '\x27' :: '\x27' :: '\x27' :: rest =>
          (readLiteralLines (skipFirstLineEnd rest)).map
            (fun (content, rest) => (.text (String.ofList content), rest))
      | '"' :: rest =>
          (readBasic rest).map
            (fun (content, rest) => (.text (String.ofList content), rest))
      | '\x27' :: rest =>
          (readLiteral rest).map
            (fun (content, rest) => (.text (String.ofList content), rest))
      | '[' :: rest =>
          match depth with
          | 0 => none
          | depth + 1 =>
              (readItems steps depth rest).map
                (fun (items, rest) => (.list items, rest))
      | '\x7b' :: rest =>
          match depth with
          | 0 => none
          | depth + 1 =>
              (readEntries steps depth [] rest).map
                (fun (entries, rest) => (.table .closed entries, rest))
      | source => readScalar source

def readItems : Nat → Nat → List Char → Option (List Toml × List Char)
  | 0, _, _ => none
  | steps + 1, depth, source => do
      match ← skipLines source with
      | ']' :: rest => return ([], rest)
      | source =>
          let (item, rest) ← readValue steps depth source
          match ← skipLines rest with
          | ']' :: rest => return ([item], rest)
          | ',' :: rest =>
              let (items, rest) ← readItems steps depth rest
              return (item :: items, rest)
          | _ => none

def readEntries :
    Nat → Nat → Entries → List Char → Option (Entries × List Char)
  | 0, _, _, _ => none
  | steps + 1, depth, entries, source => do
      match ← skipLines source with
      | '\x7d' :: rest => return (entries, rest)
      | source =>
          let (path, rest) ← readInlineKeyAndSign source
          let (value, rest) ← readValue steps depth rest
          let entries ← entries.add path value
          match ← skipLines rest with
          | '\x7d' :: rest => return (entries, rest)
          | ',' :: rest => readEntries steps depth entries rest
          | _ => none

end

/-- A part of a document that has been read: its entries, and the header that
the next entries belong under. -/
structure Progress where
  entries : Entries
  header : List String

def readTableHeader (progress : Progress) (source : List Char) :
    Option (Progress × List Char) := do
  let (path, rest) ← readKey source
  match rest with
  | ']' :: rest =>
      let entries ← progress.entries.declareTable path
      return (⟨entries, path⟩, ← nextLine rest)
  | _ => none

def readItemHeader (progress : Progress) (source : List Char) :
    Option (Progress × List Char) := do
  let (path, rest) ← readKey source
  match rest with
  | ']' :: ']' :: rest =>
      let entries ← progress.entries.declareItem path
      return (⟨entries, path⟩, ← nextLine rest)
  | _ => none

def readEntry (progress : Progress) (source : List Char) :
    Option (Progress × List Char) := do
  let (path, rest) ← readKeyAndSign source
  let (value, rest) ← readValue (rest.length + 1) greatestDepth rest
  let entries ← progress.entries.addUnder progress.header path value
  return (⟨entries, progress.header⟩, ← nextLine rest)

def readStatements : Nat → Progress → List Char → Option Entries
  | 0, _, _ => none
  | statements + 1, progress, source => do
      match ← skipLines source with
      | [] => return progress.entries
      | '[' :: '[' :: rest =>
          let (progress, rest) ← readItemHeader progress rest
          readStatements statements progress rest
      | '[' :: rest =>
          let (progress, rest) ← readTableHeader progress rest
          readStatements statements progress rest
      | source =>
          let (progress, rest) ← readEntry progress source
          readStatements statements progress rest

/-- Read a document.  A byte order mark in front does not count, and there are
fewer statements than characters. -/
def read? (document : String) : Option Entries :=
  let source :=
    match document.toList with
    | '\ufeff' :: rest => rest
    | source => source
  readStatements (source.length + 1) ⟨[], []⟩ source

end FieldCheck.Toml
