import FieldCheck.Journal.Level
import FieldCheck.Json.Writer

/-!
# Journal entries

An entry is one message with its level and the part of the program that it
comes from.  It is laid out for people, with the time in front if wanted, or
as a JSON object on one line, which always holds the time.
-/

namespace FieldCheck.Journal

inductive Layout where
  | pretty
  | json
deriving DecidableEq

namespace Layout

def text : Layout → String
  | .pretty => "pretty"
  | .json => "json"

/-- Read the name of a layout; blank ends and ASCII case do not count. -/
def parse? (name : String) : Option Layout :=
  match Text.normalized name with
  | "pretty" => some .pretty
  | "json" => some .json
  | _ => none

end Layout

structure Entry where
  layout : Layout
  timestamps : Bool
  level : Level
  target : String
  message : String
deriving DecidableEq

namespace Entry

def padded (text : String) : String :=
  text ++ String.ofList (List.replicate (5 - text.length) ' ')

def prettyLine (entry : Entry) (time : String) : String :=
  (if entry.timestamps then time ++ " " else "") ++
    padded entry.level.text ++ " [" ++ entry.target ++ "] " ++
    entry.message ++ "\n"

def toJson (entry : Entry) (time : String) : Json :=
  .ofMembers
    [("timestamp", .ofString time),
      ("level", .ofString entry.level.text),
      ("target", .ofString entry.target),
      ("message", .ofString entry.message)]

def objectLine (entry : Entry) (time : String) : String :=
  (entry.toJson time).write ++ "\n"

def text (entry : Entry) (time : String) : String :=
  match entry.layout with
  | .pretty => entry.prettyLine time
  | .json => entry.objectLine time

end Entry

end FieldCheck.Journal
