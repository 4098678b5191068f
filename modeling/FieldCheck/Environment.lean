import FieldCheck.Dictionary

/-!
# Environments

An environment gives texts to the names of variables.
-/

namespace FieldCheck

abbrev Environment := Dictionary String

namespace Environment

def presenceName : String :=
  "FIELDRULE_INTEGER_PRESENCE"

def logFailuresName : String :=
  "FIELDRULE_LOG_FAILURES"

def levelName : String :=
  "FIELDRULE_LOG_LEVEL"

def debugName : String :=
  "FIELDRULE_DEBUG"

def layoutName : String :=
  "FIELDRULE_LOG_FORMAT"

def timestampsName : String :=
  "FIELDRULE_LOG_TIMESTAMPS"

def setMissing (environment : Environment) (name text : String) :
    Environment :=
  Dictionary.insertNew environment name text

/-- The text found under a reference to a variable.  Variables are kept as
entries of a name, an equals sign and a text, and a reference finds the entry
that goes on with an equals sign after it; so it may hold the name and the
beginning of the text. -/
def found? (environment : Environment) (reference : List Char) :
    Option (List Char) :=
  let name := reference.takeWhile (· != '=')
  let start := (reference.drop name.length).drop 1
  match environment.get? (String.ofList name) with
  | none => none
  | some text =>
      if name.length = reference.length then some text.toList
      else if (start ++ ['=']).isPrefixOf text.toList then
        some (text.toList.drop (start.length + 1))
      else none

end Environment

end FieldCheck
