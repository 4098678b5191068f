import FieldCheck.Binding.AngleList
import FieldCheck.Binding.Token.Reader
import FieldCheck.Binding.TypeForm

/-!
# Module paths

A module path is a sequence of segments with double colons between them, and
possibly in front.  A segment is an identifier, with types as arguments or
without.  Keywords are no identifiers, except for those that name a module
relative to another one and those in raw form.
-/

namespace FieldCheck.Binding

structure Segment where
  name : String
  arguments : String
deriving DecidableEq

structure ModulePath where
  leading : Bool
  segments : List Segment
deriving DecidableEq

namespace ModulePath

def text (path : ModulePath) : String :=
  (if path.leading then "::" else "") ++
    "::".intercalate
      (path.segments.map (fun segment => segment.name ++ segment.arguments))

def item (path : ModulePath) (name : String) : String :=
  path.text ++ "::" ++ name

def segmentOf : List Token → Segment
  | [] => ⟨"", ""⟩
  | name :: arguments => ⟨Token.compact [name], Token.written arguments⟩

/-- Read the segments of a path as far as they go.  The first argument bounds
the number of steps. -/
def readSegments :
    Nat → List Token → TypeForm.Follow (List Segment × List Token)
  | 0, source => return ([], source)
  | steps + 1, source => do
      let (_, rest) ← TypeForm.afterSegment steps source
      let segment := segmentOf (source.take (source.length - rest.length))
      if TypeForm.startsWithColons rest && !TypeForm.startsWithCall rest then
        let (segments, rest) ← readSegments steps (rest.drop 2)
        return (segment :: segments, rest)
      else return ([segment], rest)

/-- Read a written path.  No token takes more than eight steps. -/
def parse (source : String) : Except PathFault ModulePath :=
  match Token.read? source with
  | none => .error .unreadable
  | some tokens =>
      let leading := TypeForm.startsWithColons tokens
      let tokens := TypeForm.skipColons tokens
      match (readSegments (8 * source.length + 8) tokens).run none with
      | .error fault => .error fault
      | .ok ((_, _), some bracket) => .error (.leftOver (some bracket))
      | .ok ((segments, []), none) => .ok ⟨leading, segments⟩
      | .ok _ => .error (.leftOver none)

end ModulePath

end FieldCheck.Binding
