import FieldCheck.Binding.AngleList
import FieldCheck.Binding.Token.Reader

/-!
# Parameters of a declaration

A declaration may be generic in lifetimes, types and constants.  Where its
parameters are repeated, default values are left out; where they are applied,
only their names are given.  Both forms are written without spaces.
-/

namespace FieldCheck.Binding

/-- A parameter of a declaration.  `comma` tells whether a comma follows it in
the declaration. -/
structure Parameter where
  lifetime : Bool
  declared : String
  name : String
  comma : Bool
deriving DecidableEq

namespace Parameter

def cutAttributes : List Token → String × List Token
  | .mark '#' joint :: .group .square inner :: rest =>
      let (attributes, rest) := cutAttributes rest
      (Token.compact [.mark '#' joint, .group .square inner] ++ attributes,
        rest)
  | source => ("", source)

/-- The written form of bounds, with the colon in front of them; no bounds
need no colon. -/
def boundText : List Token → String
  | [.mark ':' _] => ""
  | bounds => Token.written bounds

def ofEntry (source : List Token) (comma : Bool) : Parameter :=
  let (attributes, source) := cutAttributes source
  let (demanded, _) := Token.cutBefore (Token.isMark '=' ·) 0 source
  match demanded with
  | .lifetime name :: bounds =>
      let name := Token.compact [.lifetime name]
      ⟨true, attributes ++ name ++ boundText bounds, name, comma⟩
  | .word "const" :: name :: type =>
      let name := Token.compact [name]
      ⟨false, attributes ++ "const" ++ name ++ Token.written type, name, comma⟩
  | name :: bounds =>
      let name := Token.compact [name]
      ⟨false, attributes ++ name ++ boundText bounds, name, comma⟩
  | [] => ⟨false, attributes, "", comma⟩

/-- Read the parameters of a declaration, angle brackets included.  What
follows them is not read. -/
def parse (source : String) : List Parameter :=
  match Token.read? source with
  | some (.mark '<' _ :: tokens) =>
      (Token.cutEntries (tokens.length + 1) tokens).1.map
        (fun (entry, comma) => ofEntry entry comma)
  | _ => []

def entry (form : Parameter → String) (parameter : Parameter) : Entry :=
  ⟨parameter.lifetime, form parameter, parameter.comma⟩

end Parameter

/-- Write parameters between angle brackets, lifetimes first; nothing is
written for none. -/
def writeParameters (form : Parameter → String)
    (parameters : List Parameter) : String :=
  if parameters.isEmpty then ""
  else Entry.writtenList (parameters.map (Parameter.entry form))

end FieldCheck.Binding
