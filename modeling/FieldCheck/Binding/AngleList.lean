import FieldCheck.Binding.Token

/-!
# Lists between angle brackets

The parameters of a declaration and the arguments of a type stand between
angle brackets, with commas between them.  Where such a list is repeated,
lifetimes come first, and a comma follows the last entry only if one followed
it before.
-/

namespace FieldCheck.Binding

/-- An entry of a list.  `comma` tells whether a comma follows it where it was
written first. -/
structure Entry where
  lifetime : Bool
  spelling : String
  comma : Bool
deriving DecidableEq

namespace Entry

def written : List Entry → String
  | [] => ""
  | [last] => last.spelling ++ if last.comma then "," else ""
  | first :: rest => first.spelling ++ "," ++ written rest

def ordered (entries : List Entry) : List Entry :=
  entries.filter (·.lifetime) ++ entries.filter (!·.lifetime)

def writtenList (entries : List Entry) : String :=
  "<" ++ written (ordered entries) ++ ">"

end Entry

namespace Token

def depthAfter (token : Token) (depth : Nat) : Nat :=
  match token with
  | .mark '<' _ => depth + 1
  | .mark '>' _ => depth - 1
  | _ => depth

/-- Cut tokens before the first one outside inner lists for which a test
holds.  An arrow closes no list. -/
def cutBefore (ends : Token → Bool) (depth : Nat) :
    List Token → List Token × List Token
  | [] => ([], [])
  | .mark '-' true :: .mark '>' joint :: rest =>
      let (piece, rest) := cutBefore ends depth rest
      (.mark '-' true :: .mark '>' joint :: piece, rest)
  | token :: rest =>
      if depth = 0 ∧ ends token = true then ([], token :: rest)
      else
        let (piece, rest) := cutBefore ends (token.depthAfter depth) rest
        (token :: piece, rest)

/-- Cut the entries of a list, each with whether a comma follows it, and the
rest after its end.  The first argument bounds the number of entries. -/
def cutEntries : Nat → List Token → List (List Token × Bool) × List Token
  | 0, rest => ([], rest)
  | entries + 1, source =>
      let ends (token : Token) : Bool :=
        token.isMark ',' || token.isMark '>'
      match cutBefore ends 0 source with
      | (piece, .mark ',' _ :: rest) =>
          let (pieces, rest) := cutEntries entries rest
          ((piece, true) :: pieces, rest)
      | (piece, rest) =>
          (if piece.isEmpty then [] else [(piece, false)], rest.drop 1)

def isLifetime : List Token → Bool
  | [.lifetime _] => true
  | _ => false

/-- The written form of tokens with the entries of each list in order.  Groups
in curly brackets, attributes, the arguments of macros and what follows a
semicolon are no types and stay as they are.  A double colon before arguments
in parentheses is left out.  The first argument bounds the number of steps. -/
def writtenUpTo : Nat → List Token → String
  | 0, _ => ""
  | _ + 1, [] => ""
  | steps + 1, .mark '<' _ :: rest =>
      let (pieces, rest) := cutEntries (rest.length + 1) rest
      let entries := pieces.map (fun (piece, comma) =>
        (⟨isLifetime piece, writtenUpTo steps piece, comma⟩ : Entry))
      Entry.writtenList entries ++ writtenUpTo steps rest
  | _ + 1, .mark ';' joint :: rest => compact (.mark ';' joint :: rest)
  | steps + 1, .mark '#' joint :: .group bracket inner :: rest =>
      compact [.mark '#' joint, .group bracket inner] ++ writtenUpTo steps rest
  | steps + 1, .mark '!' joint :: .group bracket inner :: rest =>
      compact [.mark '!' joint, .group bracket inner] ++ writtenUpTo steps rest
  | steps + 1, .mark ':' true :: .mark ':' _ :: .group .round inner :: rest =>
      writtenUpTo steps (.group .round inner :: rest)
  | steps + 1, .group .curly inner :: rest =>
      compact [.group .curly inner] ++ writtenUpTo steps rest
  | steps + 1, .group bracket inner :: rest =>
      bracket.opening.toString ++ writtenUpTo steps inner ++
        bracket.closing.toString ++ writtenUpTo steps rest
  | steps + 1, token :: rest => compact [token] ++ writtenUpTo steps rest

def written (tokens : List Token) : String :=
  writtenUpTo ((charactersOf tokens).length + 1) tokens

end Token

end FieldCheck.Binding
