/-!
# Arguments of attributes

Behind the path of an attribute its arguments stand in brackets, as names with
values and commas between them.  A sequence of lexemes in brackets is listed up
to where no argument begins or no comma follows one.
-/

namespace FieldCheck.Binding

/-- A lexeme, as far as attributes tell lexemes apart.  A number may have a sign
in front, and what stands in brackets of its own is one lexeme. -/
inductive Lexeme where
  | text (content : String)
  | literal
  | word (spelling : String)
  | colons
  | equals
  | comma
  | other
deriving DecidableEq

/-- The value given for an argument.  All that is no text counts as a number,
and nothing at all may follow the sign that announces a value. -/
inductive ArgumentValue where
  | text (content : String)
  | number
  | ended
  | missing
deriving DecidableEq

structure Argument where
  name : String
  value : ArgumentValue
deriving DecidableEq

inductive Flaw where
  | literal
  | mark
  | noArgument
  | noSegment (ended : Bool)
  | noComma
deriving DecidableEq

def Flaw.message : Flaw → String
  | .literal => "unexpected literal in nested attribute, expected ident"
  | .mark => "unexpected token in nested attribute, expected ident"
  | .noArgument => "unexpected end of input, expected nested attribute"
  | .noSegment ended =>
      (if ended then "unexpected end of input, " else "") ++ "expected ident"
  | .noComma => "expected `,`"

structure Listing where
  arguments : List Argument
  flaw? : Option Flaw
deriving DecidableEq

namespace Lexeme

def alone? : List Lexeme → Option String
  | [.text content] => some content
  | _ => none

def flaw : List Lexeme → Flaw
  | [] => .noArgument
  | .text _ :: _ | .literal :: _ => .literal
  | _ => .mark

def readSegments (name : String) :
    List Lexeme → Except Flaw (String × List Lexeme)
  | .colons :: .word segment :: rest =>
      readSegments (name ++ "::" ++ segment) rest
  | .colons :: rest => .error (.noSegment rest.isEmpty)
  | rest => .ok (name, rest)

def readName : List Lexeme → Except Flaw (String × List Lexeme)
  | .word first :: rest => readSegments first rest
  | .colons :: .word first :: rest => readSegments ("::" ++ first) rest
  | .colons :: rest => .error (flaw rest)
  | source => .error (flaw source)

def readValue : List Lexeme → ArgumentValue × List Lexeme
  | .equals :: .text content :: rest => (.text content, rest)
  | [.equals] => (.ended, [])
  | .equals :: _ :: rest => (.number, rest)
  | rest => (.missing, rest)

def readArgument (source : List Lexeme) :
    Except Flaw (Argument × List Lexeme) :=
  (readName source).map
    (fun (name, rest) => (⟨name, (readValue rest).1⟩, (readValue rest).2))

/-- List arguments; a comma may follow the last one.  The first argument bounds
the number of steps. -/
def readListing : Nat → List Lexeme → Listing
  | 0, _ | _ + 1, [] => ⟨[], none⟩
  | steps + 1, source =>
      match readArgument source with
      | .error flaw => ⟨[], some flaw⟩
      | .ok (argument, []) => ⟨[argument], none⟩
      | .ok (argument, .comma :: rest) =>
          ⟨argument :: (readListing steps rest).arguments,
            (readListing steps rest).flaw?⟩
      | .ok (argument, _ :: _) => ⟨[argument], some .noComma⟩

def listing (source : List Lexeme) : Listing :=
  readListing source.length source

end Lexeme

namespace Argument

def written : Argument → List Lexeme
  | ⟨name, .text content⟩ => [.word name, .equals, .text content]
  | ⟨name, .number⟩ => [.word name, .equals, .literal]
  | ⟨name, .ended⟩ => [.word name, .equals]
  | ⟨name, .missing⟩ => [.word name]

def writtenAll : List Argument → List Lexeme
  | [] => []
  | [only] => only.written
  | first :: rest => first.written ++ .comma :: writtenAll rest

end Argument

/-- What stands behind the path of an attribute: nothing, a value, or lexemes in
brackets. -/
inductive Arguments where
  | none
  | assigned
  | bracketed (lexemes : List Lexeme)
deriving DecidableEq

namespace Arguments

def literal (content : String) : Arguments :=
  .bracketed [.text content]

def named (arguments : List Argument) : Arguments :=
  .bracketed (Argument.writtenAll arguments)

end Arguments

end FieldCheck.Binding
