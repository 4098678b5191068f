/-!
# TOML values

A TOML document is a table of named values.  How a table came about decides
what may still be added to it, so each table remembers its origin.  Of a
number with a fraction and of a point in time only the written form is kept.
-/

namespace FieldCheck

namespace Toml

inductive Origin where
  /-- A header names the table, or it is the document itself. -/
  | declared
  /-- A header names a table below it. -/
  | implied
  /-- A dotted key leads through it. -/
  | dotted
  /-- It is written between braces, and nothing can be added. -/
  | closed
deriving DecidableEq

end Toml

inductive Toml where
  | text (content : String)
  | integer (number : Int)
  | float (literal : String)
  | flag (truth : Bool)
  | moment (literal : String)
  | list (items : List Toml)
  | table (origin : Toml.Origin) (entries : List (String × Toml))
  /-- An array of tables that headers have begun; the latest one is open. -/
  | tables (earlier : List Toml) (latest : List (String × Toml))

namespace Toml

abbrev Entries := List (String × Toml)

namespace Entries

def replace (entries : Entries) (key : String) (value : Toml) : Entries :=
  entries.map (fun entry => if entry.1 == key then (key, value) else entry)

/-- Change the table that a path leads to.  Tables that are missing on the way
are made.  A dotted key may lead through tables only that no header has
declared; no path leads through a closed table. -/
def within (dotted : Bool)
    (change : Origin → Entries → Option Entries) :
    List String → Origin → Entries → Option Entries
  | [], origin, entries => change origin entries
  | key :: path, _, entries =>
      match entries.lookup key with
      | none =>
          let origin := if dotted then .dotted else .implied
          (within dotted change path origin []).map
            (fun inner => entries ++ [(key, .table origin inner)])
      | some (.table origin inner) =>
          if origin = .closed ∨ (dotted = true ∧ origin = .declared) then none
          else (within dotted change path origin inner).map
            (fun inner => entries.replace key (.table origin inner))
      | some (.tables earlier latest) =>
          (within dotted change path .declared latest).map
            (fun latest => entries.replace key (.tables earlier latest))
      | some _ => none

/-- Add a value under a key that is free.  After a dotted key the table must
be one that dotted keys have made. -/
def addFree (afterDots : Bool) (key : String) (value : Toml)
    (origin : Origin) (entries : Entries) : Option Entries :=
  if (origin = .dotted ↔ afterDots = true) ∧ (entries.lookup key).isNone then
    some (entries ++ [(key, value)])
  else none

def add (entries : Entries) (path : List String) (value : Toml) :
    Option Entries :=
  match path.getLast? with
  | none => none
  | some key =>
      within true (addFree (1 < path.length) key value) path.dropLast
        .declared entries

/-- Declare a table.  It may have been implied before, but neither declared
nor made in another way. -/
def declareTable (entries : Entries) (path : List String) : Option Entries :=
  match path.getLast? with
  | none => none
  | some key =>
      within false
        (fun _ inside =>
          match inside.lookup key with
          | none => some (inside ++ [(key, .table .declared [])])
          | some (.table .implied inner) =>
              some (Entries.replace inside key (.table .declared inner))
          | some _ => none)
        path.dropLast .declared entries

def declareItem (entries : Entries) (path : List String) : Option Entries :=
  match path.getLast? with
  | none => none
  | some key =>
      within false
        (fun _ inside =>
          match inside.lookup key with
          | none => some (inside ++ [(key, .tables [] [])])
          | some (.tables earlier latest) =>
              some (Entries.replace inside key
                (.tables (earlier ++ [.table .declared latest]) []))
          | some _ => none)
        path.dropLast .declared entries

def addUnder (entries : Entries) (header path : List String) (value : Toml) :
    Option Entries :=
  within false (fun _ inside => Entries.add inside path value) header
    .declared entries

end Entries

end Toml

end FieldCheck
