/-!
# Tokens

A written declaration is a sequence of words, lifetimes, literals and marks,
and of groups of tokens in brackets.  Angle brackets make no groups: they are
marks.  A mark is joint when another mark follows it at once.
-/

namespace FieldCheck.Binding

inductive Bracket where
  | round
  | square
  | curly
deriving DecidableEq

namespace Bracket

def opening : Bracket → Char
  | .round => '('
  | .square => '['
  | .curly => '\x7b'

def closing : Bracket → Char
  | .round => ')'
  | .square => ']'
  | .curly => '\x7d'

def ofOpening? (character : Char) : Option Bracket :=
  [round, square, curly].find? (·.opening == character)

def isClosing (character : Char) : Bool :=
  [round, square, curly].any (·.closing == character)

end Bracket

inductive Token where
  | word (spelling : String)
  | lifetime (name : String)
  | literal (spelling : String)
  | mark (symbol : Char) (joint : Bool)
  | group (bracket : Bracket) (inner : List Token)

namespace Token

mutual

def characters : Token → List Char
  | .word spelling => spelling.toList
  | .lifetime name => '\x27' :: name.toList
  | .literal spelling => spelling.toList
  | .mark symbol _ => [symbol]
  | .group bracket inner =>
      bracket.opening :: (charactersOf inner ++ [bracket.closing])

def charactersOf : List Token → List Char
  | [] => []
  | first :: rest => first.characters ++ charactersOf rest

end

def isMark (symbol : Char) : Token → Bool
  | .mark other _ => other == symbol
  | _ => false

def compact (tokens : List Token) : String :=
  String.ofList ((charactersOf tokens).filter (· != ' '))

end Token

end FieldCheck.Binding
