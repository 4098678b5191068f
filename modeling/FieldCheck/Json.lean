/-!
# JSON values

The members of an object keep their order and their repetitions, because what
a repeated name means is for the reader of the object to say.  A number is
kept as written.  A text is kept as the string that it denotes; an escape may
name one half of a surrogate pair, which no string can hold, and then nothing
is kept of the text but that it was one.
-/

namespace FieldCheck

inductive Json where
  | null
  | flag (truth : Bool)
  | number (literal : String)
  | text (content? : Option String)
  | list (items : List Json)
  | object (members : List (Option String × Json))

namespace Json

def ofString (content : String) : Json :=
  .text (some content)

def ofMembers (members : List (String × Json)) : Json :=
  .object (members.map (fun member => (some member.1, member.2)))

def string? : Json → Option String
  | .text content? => content?
  | _ => none

def truth? : Json → Option Bool
  | .flag truth => some truth
  | _ => none

end Json

end FieldCheck
