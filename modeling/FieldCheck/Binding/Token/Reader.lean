import FieldCheck.Binding.Token
import FieldCheck.Binding.Token.Literal
import FieldCheck.Text.Blank
import FieldCheck.Text.Quoted

/-!
# Reading tokens

Blanks and comments separate tokens and are left out, except that a comment of
documentation is an attribute.  A text is unreadable when a bracket or a
comment is not closed, or when something is no token.
-/

namespace FieldCheck.Binding.Token

def isGap (character : Char) : Bool :=
  Text.isBlank character || character == '\u200e' || character == '\u200f'

def cutLine : List Char → List Char × List Char
  | [] => ([], [])
  | '\n' :: rest => ([], '\n' :: rest)
  | '\r' :: '\n' :: rest => ([], '\r' :: '\n' :: rest)
  | character :: rest =>
      let (line, rest) := cutLine rest
      (character :: line, rest)

def afterBlock? (depth : Nat) : List Char → Option (List Char)
  | [] => none
  | '/' :: '*' :: rest => afterBlock? (depth + 1) rest
  | '*' :: '/' :: rest =>
      if depth ≤ 1 then some rest else afterBlock? (depth - 1) rest
  | _ :: rest => afterBlock? depth rest

inductive Comment where
  | line
  | block
  | lineDocumentation (inner : Bool)
  | blockDocumentation (inner : Bool)

def comment? : List Char → Option Comment
  | '/' :: '/' :: '/' :: '/' :: _ => some .line
  | '/' :: '/' :: '/' :: _ => some (.lineDocumentation false)
  | '/' :: '/' :: '!' :: _ => some (.lineDocumentation true)
  | '/' :: '/' :: _ => some .line
  | '/' :: '*' :: '*' :: '/' :: _ => some .block
  | '/' :: '*' :: '*' :: '*' :: _ => some .block
  | '/' :: '*' :: '*' :: _ => some (.blockDocumentation false)
  | '/' :: '*' :: '!' :: _ => some (.blockDocumentation true)
  | '/' :: '*' :: _ => some .block
  | _ => none

/-- The rest after blanks and comments that say nothing.  The first argument
bounds their number. -/
def skipGaps : Nat → List Char → List Char
  | 0, source => source
  | steps + 1, source =>
      let source := source.dropWhile isGap
      match comment? source with
      | some .line => skipGaps steps (cutLine source).2
      | some .block =>
          match afterBlock? 0 source with
          | some rest => skipGaps steps rest
          | none => source
      | _ => source

def hasWholeLineEnds : List Char → Bool
  | [] => true
  | '\r' :: '\n' :: rest => hasWholeLineEnds rest
  | character :: rest => character != '\r' && hasWholeLineEnds rest

def documentation? (inner : Bool) (content : List Char) :
    Option (List Token) :=
  if hasWholeLineEnds content then
    let documentation : Token :=
      .group .square
        [.word "doc", .mark '=' false,
          .literal (Text.quoted (String.ofList content))]
    some
      (.mark '#' false ::
        if inner then [.mark '!' false, documentation] else [documentation])
  else none

def readDocumentation (source : List Char) :
    Comment → Option (List Token × List Char)
  | .lineDocumentation inner =>
      let (line, rest) := cutLine (source.drop 3)
      (documentation? inner line).map (·, rest)
  | .blockDocumentation inner => do
      let rest ← afterBlock? 0 source
      let content := (source.take (source.length - rest.length - 2)).drop 3
      return (← documentation? inner content, rest)
  | _ => none

def isMarkCharacter (character : Char) : Bool :=
  "~!@#$%^&*-=+|;:,<.>/?\x27".toList.contains character

def startsWithMark (source : List Char) : Bool :=
  source.head?.any isMarkCharacter && (comment? source).isNone

/-- The words that raw form cannot make identifiers. -/
def neverRaw : List String :=
  ["_", "super", "self", "Self", "crate"]

def cutPlainWord? : List Char → Option (List Char × List Char)
  | [] => none
  | character :: rest =>
      if Text.startsIdentifier character then
        some (character :: rest.takeWhile Text.continuesIdentifier,
          rest.dropWhile Text.continuesIdentifier)
      else none

def cutWord? (source : List Char) : Option (List Char × List Char) :=
  match source with
  | 'r' :: '#' :: rest => do
      let (spelling, rest) ← cutPlainWord? rest
      if neverRaw.contains (String.ofList spelling) then none
      else return ('r' :: '#' :: spelling, rest)
  | source => cutPlainWord? source

def literalBeginnings : List String :=
  ["r\"", "r#\"", "r##", "b\"", "b\x27", "br\"", "br#", "c\"", "cr\"", "cr#"]

def readWord (source : List Char) : Option (List Char × List Char) :=
  if literalBeginnings.any (·.toList.isPrefixOf source) then none
  else cutWord? source

/-- Whether the quote before a text begins a lifetime: a word stands there, and
no quote ends it. -/
def startsLifetime (source : List Char) : Bool :=
  match cutWord? source with
  | some (_, '\x27' :: _) => false
  | some (_, '#' :: _) => "r#".toList.isPrefixOf source
  | some _ => true
  | none => false

def readMark : List Char → Option (Token × List Char)
  | '\x27' :: rest =>
      if startsLifetime rest then
        match Literal.after? rest, readWord rest with
        | none, some (name, rest) =>
            some (.lifetime (String.ofList name), rest)
        | _, _ => some (.mark '\x27' true, rest)
      else none
  | symbol :: rest =>
      if startsWithMark (symbol :: rest) then
        some (.mark symbol (startsWithMark rest), rest)
      else none
  | [] => none

def readSingle (source : List Char) : Option (Token × List Char) :=
  match Literal.after? source with
  | some rest =>
      let spelling := source.take (source.length - rest.length)
      some (.literal (String.ofList spelling), rest)
  | none =>
      (readMark source).or
        ((readWord source).map
          (fun (spelling, rest) => (.word (String.ofList spelling), rest)))

/-- Read tokens up to a closing bracket or to the end.  The first argument
bounds the number of steps. -/
def readSequence : Nat → List Char → Option (List Token × List Char)
  | 0, _ => none
  | steps + 1, source =>
      let source := skipGaps steps source
      match source with
      | [] => some ([], [])
      | character :: rest =>
          match comment? source with
          | some comment => do
              let (tokens, rest) ← readDocumentation source comment
              let (later, rest) ← readSequence steps rest
              return (tokens ++ later, rest)
          | none =>
              match Bracket.ofOpening? character with
              | some bracket => do
                  let (inner, rest) ← readSequence steps rest
                  if rest.head? = some bracket.closing then
                    let (later, rest) ← readSequence steps (rest.drop 1)
                    return (.group bracket inner :: later, rest)
                  else none
              | none =>
                  if Bracket.isClosing character then some ([], source)
                  else do
                    let (token, rest) ← readSingle source
                    let (later, rest) ← readSequence steps rest
                    return (token :: later, rest)

/-- Read a text as tokens.  A byte order mark in front does not count. -/
def read? (source : String) : Option (List Token) :=
  let characters :=
    match source.toList with
    | '\ufeff' :: rest => rest
    | characters => characters
  match readSequence (characters.length + 1) characters with
  | some (tokens, []) => some tokens
  | _ => none

/-- A text as its tokens are written, without spaces and comments; a text that
is unreadable stays as it is. -/
def plain (source : String) : String :=
  ((read? source).map compact).getD source

end FieldCheck.Binding.Token
