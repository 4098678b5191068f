import FieldCheck.Binding.AngleList
import FieldCheck.Binding.PathFault

/-!
# The form of types

A segment of a path may have types as arguments.  The functions here follow
tokens as far as they have the form asked for, and give the tokens after it or
the first complaint.  Tokens that are left in a group are complained about
last.  A number bounds the steps of each function, and `plus` tells whether
plus signs may join types.
-/

namespace FieldCheck.Binding

namespace TypeForm

/-- What follows tokens: it complains, or keeps the first group that was not
read to its end. -/
abbrev Follow := StateT (Option Bracket) (Except PathFault)

abbrev Step := Follow (List Token)

def missing {α : Type} (demand : Demand) (source : List Token) : Follow α :=
  throw (.missing demand source.isEmpty)

def relativeKeywords : List String :=
  ["crate", "self", "super", "Self"]

def otherKeywords : List String :=
  ["_", "abstract", "as", "async", "await", "become", "box", "break", "const",
    "continue", "do", "dyn", "else", "enum", "extern", "false", "final", "fn",
    "for", "if", "impl", "in", "let", "loop", "macro", "match", "mod", "move",
    "mut", "override", "priv", "pub", "ref", "return", "static", "struct",
    "trait", "true", "try", "type", "typeof", "unsafe", "unsized", "use",
    "virtual", "where", "while", "yield"]

def isIdentifier (word : String) : Bool :=
  !relativeKeywords.contains word && !otherKeywords.contains word

def startsWithColons : List Token → Bool
  | .mark ':' true :: .mark ':' _ :: _ => true
  | _ => false

def startsWithCall : List Token → Bool
  | .group .round _ :: _ => true
  | .mark ':' true :: .mark ':' _ :: .group .round _ :: _ => true
  | _ => false

def startsWithList : List Token → Bool
  | .mark '<' true :: .mark '=' _ :: _ => false
  | .mark '<' true :: .mark '<' true :: .mark '=' _ :: _ => false
  | .mark '<' _ :: _ => true
  | .mark ':' true :: .mark ':' _ :: .mark '<' _ :: _ => true
  | _ => false

def startsWithLiteral : List Token → Bool
  | .literal _ :: _ => true
  | .word "true" :: _ => true
  | .word "false" :: _ => true
  | .mark '-' _ :: .literal spelling :: _ =>
      spelling.toList.head?.any Char.isDigit
  | _ => false

def afterConstant : List Token → List Token
  | .mark '-' _ :: _ :: rest => rest
  | source => source.drop 1

def startsWithBound : List Token → Bool
  | .word _ :: _ => true
  | .lifetime _ :: _ => true
  | .mark '?' _ :: _ => true
  | .group .round _ :: _ => true
  | source => startsWithColons source

def afterMark (symbol : Char) : List Token → Step
  | .mark other _ :: rest =>
      if other == symbol then pure rest
      else throw (.missingMark symbol.toString)
  | _ => throw (.missingMark symbol.toString)

def afterColons (source : List Token) : Step :=
  if startsWithColons source then pure (source.drop 2)
  else throw (.missingMark "::")

def skipColons (source : List Token) : List Token :=
  if startsWithColons source then source.drop 2 else source

/-- The tokens after a group, of which some may be left.  That is a complaint
only if nothing else is. -/
def groupEnd (bracket : Bracket) (inner rest : List Token) : Step := do
  unless inner.isEmpty do
    modify (·.or (some bracket))
  return rest

def afterLifetimes : List Token → Step
  | .mark '>' _ :: rest => pure rest
  | .lifetime _ :: .mark '>' _ :: rest => pure rest
  | .lifetime _ :: .mark ',' _ :: rest => afterLifetimes rest
  | .lifetime _ :: _ => throw (.missingMark ",")
  | source => missing .lifetime source

def afterBinder : List Token → Step
  | .word "for" :: .mark '<' _ :: rest => afterLifetimes rest
  | .word "for" :: _ => throw (.missingMark "<")
  | source => pure source

def isName : List Token → Bool
  | [.word word] => word != "_"
  | .word _ :: list =>
      startsWithList list &&
        (Token.cutEntries list.length ((skipColons list).drop 1)).2.isEmpty
  | _ => false

/-- Whether a type in parentheses can be the first bound of a sum: it is a path,
and neither a sum nor a macro. -/
def isBoundForm (source : List Token) : Bool :=
  let ends (token : Token) : Bool := token.isMark '+' || token.isMark '!'
  let begins :=
    match source with
    | .word word :: _ =>
        isIdentifier word || relativeKeywords.contains word || word == "for"
    | source => startsWithColons source
  begins && (Token.cutBefore ends 0 source).2.isEmpty

def skipAttributes : List Token → List Token
  | .mark '#' _ :: .group .square _ :: rest => skipAttributes rest
  | source => source

def skipArgumentName (source : List Token) : List Token :=
  match source with
  | .word word :: .mark ':' joint :: rest =>
      if startsWithColons (.mark ':' joint :: rest) then source
      else if isIdentifier word || word == "_" || word == "self" then rest
      else source
  | _ => source

def skipQualifiers (source : List Token) : List Token :=
  let source :=
    match source with
    | .word "unsafe" :: rest => rest
    | source => source
  match source with
  | .word "extern" :: .literal _ :: rest => rest
  | .word "extern" :: rest => rest
  | source => source

def startsWithDots : List Token → Bool
  | .mark '.' true :: .mark '.' true :: .mark '.' _ :: _ => true
  | _ => false

mutual

def afterType (plus : Bool) : Nat → List Token → Step
  | 0, source => missing .typeForm source
  | steps + 1, source =>
      match source with
      | .word "for" :: _ => do
          let rest ← afterBinder source
          match rest with
          | .word word :: _ =>
              if word == "fn" || word == "unsafe" || word == "extern" then
                afterFunction steps rest
              else if isIdentifier word || relativeKeywords.contains word then
                afterNamed plus steps rest
              else missing .boundType rest
          | _ => missing .boundType rest
      | .group .round inner :: rest => afterParentheses plus steps inner rest
      | .word "fn" :: _ => afterFunction steps source
      | .word "unsafe" :: _ => afterFunction steps source
      | .word "extern" :: _ => afterFunction steps source
      | .word "dyn" :: .mark '*' _ :: rest => afterObject true plus steps rest
      | .word "dyn" :: rest => afterObject true plus steps rest
      | .word "impl" :: rest => afterObject false plus steps rest
      | .word "_" :: rest => pure rest
      | .word word :: _ =>
          if isIdentifier word || relativeKeywords.contains word then
            afterNamed plus steps source
          else missing .typeForm source
      | .mark '<' _ :: _ => afterNamed plus steps source
      | .group .square inner :: rest => do
          match ← afterType true steps inner with
          | .mark ';' _ :: [] => throw (.missing .expression true)
          | .mark ';' _ :: _ => pure rest
          | left => groupEnd .square left rest
      | .mark '*' _ :: .word "const" :: rest => afterType false steps rest
      | .mark '*' _ :: .word "mut" :: rest => afterType false steps rest
      | .mark '*' _ :: rest => missing .mutability rest
      | .mark '&' _ :: .lifetime _ :: .word "mut" :: rest =>
          afterType false steps rest
      | .mark '&' _ :: .lifetime _ :: rest => afterType false steps rest
      | .mark '&' _ :: .word "mut" :: rest => afterType false steps rest
      | .mark '&' _ :: rest => afterType false steps rest
      | .mark '!' _ :: rest => pure rest
      | .lifetime _ :: _ => afterObject true plus steps source
      | source =>
          if startsWithColons source then afterNamed plus steps source
          else missing .typeForm source

/-- Follow a type that begins with a group in parentheses: a tuple, a type in
parentheses, or a sum of bounds. -/
def afterParentheses (plus : Bool) : Nat → List Token → List Token → Step
  | 0, _, source => missing .typeForm source
  | steps + 1, inner, rest => do
      match inner with
      | [] => pure rest
      | .lifetime _ :: _ =>
          let left ← afterObject true true steps inner
          groupEnd .round left rest
      | .mark '?' _ :: _ =>
          let (_, left) ← afterBound steps inner
          let after ← groupEnd .round left rest
          return (← afterMoreBounds steps after).2
      | _ =>
          let left ← afterType true steps inner
          if left.head?.any (Token.isMark ',' ·) then
            let left ← afterTypes steps (left.drop 1)
            groupEnd .round left rest
          else
            let after ← groupEnd .round left rest
            if plus && isBoundForm inner then
              return (← afterMoreBounds steps after).2
            else return after

def afterTypes : Nat → List Token → Step
  | 0, source => missing .typeForm source
  | steps + 1, source => do
      if source.isEmpty then return []
      else
        let rest ← afterType true steps source
        if rest.isEmpty then return []
        else afterTypes steps (← afterMark ',' rest)

def afterCall : Nat → List Token → Step
  | 0, source => missing .parentheses source
  | steps + 1, source =>
      match source with
      | .group .round inner :: rest => do
          let left ← afterTypes steps inner
          afterResult steps (← groupEnd .round left rest)
      | source => missing .parentheses source

def afterResult : Nat → List Token → Step
  | 0, source => pure source
  | steps + 1, source =>
      match source with
      | .mark '-' true :: .mark '>' _ :: rest => afterType false steps rest
      | source => pure source

def afterFunction : Nat → List Token → Step
  | 0, source => missing .typeForm source
  | steps + 1, source =>
      match skipQualifiers source with
      | .word "fn" :: rest => afterArguments steps rest
      | source => missing (.keyword "fn") source

def afterArguments : Nat → List Token → Step
  | 0, source => missing .parentheses source
  | steps + 1, source =>
      match source with
      | .group .round inner :: rest => do
          let left ← afterNamedTypes steps inner
          afterResult steps (← groupEnd .round left rest)
      | source => missing .parentheses source

/-- Follow the arguments of the type of a function, which may have names and
attributes. -/
def afterNamedTypes : Nat → List Token → Step
  | 0, source => missing .typeForm source
  | steps + 1, source => do
      let source := skipAttributes source
      let argument := skipArgumentName source
      if source.isEmpty then return []
      else if startsWithDots argument then
        match argument.drop 3 with
        | .mark ',' _ :: rest => return rest
        | rest => return rest
      else
        let rest ← afterType true steps argument
        if rest.isEmpty then return []
        else afterNamedTypes steps (← afterMark ',' rest)

/-- Follow bounds, of which one at least must be a trait. -/
def afterObject (named plus : Bool) : Nat → List Token → Step
  | 0, source => missing .identifier source
  | steps + 1, source => do
      let (first, rest) ← afterBound steps source
      let (more, rest) ← if plus then afterMoreBounds steps rest
        else pure (false, rest)
      if first || more then return rest else throw (.noTrait named)

def afterBound : Nat → List Token → Follow (Bool × List Token)
  | 0, source => missing .identifier source
  | steps + 1, source => do
      match source with
      | .lifetime _ :: rest => return (false, rest)
      | .group .round inner :: rest =>
          let left ← afterTrait steps inner
          return (true, ← groupEnd .round left rest)
      | source => return (true, ← afterTrait steps source)

def afterMoreBounds : Nat → List Token → Follow (Bool × List Token)
  | 0, source => pure (false, source)
  | steps + 1, source => do
      match source with
      | .mark '+' _ :: rest =>
          if startsWithBound rest then
            let (first, rest) ← afterBound steps rest
            let (more, rest) ← afterMoreBounds steps rest
            return (first || more, rest)
          else return (false, rest)
      | source => return (false, source)

def afterTrait : Nat → List Token → Step
  | 0, source => missing .identifier source
  | steps + 1, source => do
      let source ← afterBinder source
      let source ← match source with
        | .mark '?' _ :: rest => afterBinder rest
        | source => pure source
      let (plain, _, rest) ← afterPath steps (skipColons source)
      if plain && startsWithCall rest then afterCall steps (skipColons rest)
      else return rest

/-- Follow the segments of a path, and tell whether the last one, and whether
all of them, are without arguments. -/
def afterPath :
    Nat → List Token → Follow (Bool × Bool × List Token)
  | 0, source => missing .identifier source
  | steps + 1, source => do
      let (plain, rest) ← afterSegment steps source
      if startsWithColons rest && !startsWithCall rest then
        let (lastPlain, allPlain, rest) ← afterPath steps (rest.drop 2)
        return (lastPlain, plain && allPlain, rest)
      else return (plain, plain, rest)

def afterSegment : Nat → List Token → Follow (Bool × List Token)
  | 0, source => missing .identifier source
  | steps + 1, source => do
      match source with
      | .word word :: rest =>
          if ["super", "self", "crate", "try"].contains word then
            return (true, rest)
          else if otherKeywords.contains word then throw (.keyword word)
          else if startsWithList rest then
            let rest ← afterMark '<' (skipColons rest)
            return (false, ← afterList steps rest)
          else return (true, rest)
      | source => missing .identifier source

def afterList : Nat → List Token → Step
  | 0, source => missing .typeForm source
  | steps + 1, source => do
      match source with
      | .mark '>' _ :: rest => return rest
      | source =>
          match ← afterArgument steps source with
          | .mark '>' _ :: rest => return rest
          | rest => afterList steps (← afterMark ',' rest)

/-- Follow an argument of a list: a lifetime, a constant, a type, or what is
said about a type by its name. -/
def afterArgument : Nat → List Token → Step
  | 0, source => missing .typeForm source
  | steps + 1, source => do
      match source with
      | .lifetime _ :: .mark '+' _ :: _ => afterType true steps source
      | .lifetime _ :: rest => return rest
      | .group .curly _ :: rest => pure rest
      | source =>
          if startsWithLiteral source then pure (afterConstant source)
          else
            let rest ← afterType true steps source
            if isName (source.take (source.length - rest.length)) then
              match rest with
              | .mark '=' _ :: value => afterValue steps value
              | .mark ':' _ :: bounds => afterListedBounds steps bounds
              | rest => return rest
            else return rest

def afterValue : Nat → List Token → Step
  | 0, source => missing .typeForm source
  | steps + 1, source =>
      match source with
      | .group .curly _ :: rest => pure rest
      | source =>
          if startsWithLiteral source then pure (afterConstant source)
          else afterType true steps source

def afterListedBounds : Nat → List Token → Step
  | 0, source => missing .identifier source
  | steps + 1, source => do
      match source with
      | .mark ',' _ :: _ => return source
      | .mark '>' _ :: _ => return source
      | source =>
          let (_, rest) ← afterBound steps source
          match rest with
          | .mark '+' _ :: rest => afterListedBounds steps rest
          | rest => return rest

/-- Follow a type that begins with a path, or with a type between angle
brackets.  Arguments in parentheses belong to bounds alone. -/
def afterNamed (plus : Bool) : Nat → List Token → Step
  | 0, source => missing .typeForm source
  | steps + 1, source => do
      match source with
      | .mark '<' _ :: rest =>
          let rest ← afterType true steps rest
          let rest ← match rest with
            | .word "as" :: rest =>
                (afterPath steps (skipColons rest)).map (·.2.2)
            | rest => pure rest
          let rest ← afterColons (← afterMark '>' rest)
          let (_, _, rest) ← afterPath steps rest
          if startsWithColons rest then missing .identifier (rest.drop 2)
          else return rest
      | source =>
          let (_, allPlain, rest) ← afterPath steps (skipColons source)
          match rest with
          | .mark '!' joint :: rest =>
              let compares := joint && rest.head?.any (Token.isMark '=' ·)
              if allPlain && !compares then
                match rest with
                | .group _ _ :: rest => return rest
                | rest => missing .delimiter rest
              else return .mark '!' joint :: rest
          | rest =>
              if plus then return (← afterMoreBounds steps rest).2
              else return rest

end

end TypeForm

end FieldCheck.Binding
