import FieldCheck.Environment
import FieldCheck.Environment.Line

/-!
# Environment files

A quoted value may go over several lines of the file, so the lines are joined
before they are read.  The file sets the variables that are not set yet, in
order; a line that cannot be read ends the reading, and what came before it
stays.
-/

namespace FieldCheck.Environment

inductive Quoting where
  | outside
  | afterBlank
  | escape
  | single
  | singleEscape
  | double
  | doubleEscape
deriving DecidableEq

namespace Quoting

def entered (character : Char) : Quoting :=
  match character with
  | '\\' => .escape
  | '"' => .double
  | '\x27' => .single
  | _ => .outside

def next : Quoting → Char → Quoting
  | .outside, character =>
      if Text.isBlank character && character != '\n' && character != '\r' then
        .afterBlank
      else entered character
  | .afterBlank, character => entered character
  | .escape, _ => .outside
  | .single, character =>
      match character with
      | '\\' => .singleEscape
      | '\x27' => .outside
      | _ => .single
  | .singleEscape, _ => .single
  | .double, character =>
      match character with
      | '\\' => .doubleEscape
      | '"' => .outside
      | _ => .double
  | .doubleEscape, _ => .double

end Quoting

/-- Follow a line to its end, or to the comment after its first blank of a
run: the characters followed, and where the search stands if it went to the
end. -/
def followLine : Quoting → List Char → List Char × Option Quoting
  | quoting, [] => ([], some quoting)
  | quoting, character :: rest =>
      if quoting = .afterBlank ∧ character = '#' then ([], none)
      else
        let (followed, ending) := followLine (quoting.next character) rest
        (character :: followed, ending)

def physicalLines : List Char → List (List Char)
  | [] => []
  | character :: rest =>
      if character = '\n' then ['\n'] :: physicalLines rest
      else
        match physicalLines rest with
        | [] => [[character]]
        | line :: lines => (character :: line) :: lines

def withoutLineEnd (line : List Char) : List Char :=
  match line.reverse with
  | '\n' :: '\r' :: rest => rest.reverse
  | '\n' :: rest => rest.reverse
  | _ => line

/-- Join physical lines to the lines that are read.  The last one is missing
when the file ends before it does. -/
def joinLines (pending : List Char) (quoting : Quoting) :
    List (List Char) → List (Option (List Char))
  | [] => if quoting = .outside then [] else [none]
  | line :: rest =>
      let joined := pending ++ line
      if (joined.dropWhile Text.isBlank).head? = some '#' then
        some [] :: joinLines [] .outside rest
      else
        match followLine quoting line with
        | (followed, none) =>
            some (pending ++ followed) :: joinLines [] .outside rest
        | (_, some .outside) =>
            some (withoutLineEnd joined) :: joinLines [] .outside rest
        | (_, some unfinished) => joinLines joined unfinished rest

def loadLines (environment : Environment) :
    List (Option (List Char)) → Environment
  | [] => environment
  | none :: _ => environment
  | some line :: rest =>
      let valueOf (reference : List Char) : List Char :=
        (environment.found? reference).getD []
      match readLine valueOf line with
      | .nothing => loadLines environment rest
      | .broken => environment
      | .setting name text =>
          loadLines (environment.setMissing name text) rest

/-- Read the text of an environment file.  A byte order mark in front does not
count. -/
def load (environment : Environment) (file : String) : Environment :=
  let source :=
    match file.toList with
    | '\ufeff' :: rest => rest
    | source => source
  loadLines environment (joinLines [] .outside (physicalLines source))

end FieldCheck.Environment
