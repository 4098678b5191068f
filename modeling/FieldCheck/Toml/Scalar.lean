import FieldCheck.Decimal.Nearest
import FieldCheck.Json.Reader
import FieldCheck.Toml

/-!
# TOML scalars

Truth values, numbers and points in time are written as one word, except that
a blank may stand between a date and a time.  Single underscores may stand
between digits.  A whole number must fit a word of 128 bits, and a fraction
must not be too large for a floating point number.  A time of day may leave
out its seconds.
-/

namespace FieldCheck.Toml

def isWordCharacter (character : Char) : Bool :=
  character.isAlphanum || ['+', '-', '.', '_', ':'].contains character

/-- Take out the underscores of a string of digits, each of which must stand
between two digits. -/
def withoutUnderscores? (isDigit : Char → Bool) :
    List Char → Option (List Char)
  | [] => none
  | [digit] => if isDigit digit then some [digit] else none
  | digit :: '_' :: rest =>
      if isDigit digit then (withoutUnderscores? isDigit rest).map (digit :: ·)
      else none
  | digit :: rest =>
      if isDigit digit then (withoutUnderscores? isDigit rest).map (digit :: ·)
      else none

def isMinimal : List Char → Bool
  | '0' :: _ :: _ => false
  | _ => true

def inBase? (base : Nat) (source : List Char) : Option Nat :=
  let isDigit (character : Char) : Bool :=
    (Json.hexValue? character).any (· < base)
  (withoutUnderscores? isDigit source).map
    (·.foldl
      (fun total digit => base * total + (Json.hexValue? digit).getD 0) 0)

def wholeDigits? (source : List Char) : Option (List Char) :=
  if isMinimal source then withoutUnderscores? Char.isDigit source else none

def cutSign : List Char → Option Char × List Char
  | '+' :: rest => (some '+', rest)
  | '-' :: rest => (some '-', rest)
  | rest => (none, rest)

/-- Read a whole number; other bases than ten take no sign. -/
def integer? (source : List Char) : Option Int :=
  match source with
  | '0' :: 'x' :: digits => (inBase? 16 digits).map Int.ofNat
  | '0' :: 'o' :: digits => (inBase? 8 digits).map Int.ofNat
  | '0' :: 'b' :: digits => (inBase? 2 digits).map Int.ofNat
  | _ =>
      let (sign?, digits) := cutSign source
      (wholeDigits? digits).map (fun digits =>
        let size : Int := Decimal.ofDigits digits
        if sign? = some '-' then -size else size)

def fitsWord (number : Int) : Bool :=
  -Int.ofNat (Nat.pow 2 127) ≤ number && number < Int.ofNat (Nat.pow 2 128)

def exponentDigits? (source : List Char) : Option (List Char) :=
  let (sign?, digits) := cutSign source
  (withoutUnderscores? Char.isDigit digits).map (sign?.toList ++ ·)

def isExponentMark (character : Char) : Bool :=
  character == 'e' || character == 'E'

def fractionForm? (source : List Char) : Option (List Char) := do
  let mantissa := source.takeWhile (!isExponentMark ·)
  let tail := source.dropWhile (!isExponentMark ·)
  let whole := mantissa.takeWhile (· != '.')
  let fraction := mantissa.dropWhile (· != '.')
  if fraction.isEmpty && tail.isEmpty then none
  else
    let whole ← wholeDigits? whole
    let fraction ←
      if fraction.isEmpty then some []
      else (withoutUnderscores? Char.isDigit (fraction.drop 1)).map ('.' :: ·)
    let exponent ←
      if tail.isEmpty then some []
      else (exponentDigits? (tail.drop 1)).map ('e' :: ·)
    return whole ++ fraction ++ exponent

def isBounded (form : List Char) : Bool :=
  match Decimal.read? (String.ofList form) with
  | some (.finite decimal) => (decimal.toBinary? .double).isSome
  | _ => false

def isFloat (source : List Char) : Bool :=
  let unsigned := (cutSign source).2
  unsigned == "inf".toList || unsigned == "nan".toList ||
    (fractionForm? unsigned).any isBounded

def fixedNumber? (length : Nat) (source : List Char) : Option Nat :=
  if source.length = length ∧ source.all Char.isDigit then
    some (Decimal.ofDigits source)
  else none

def daysOf (year month : Nat) : Nat :=
  if month = 2 then
    if year % 4 = 0 ∧ (year % 100 ≠ 0 ∨ year % 400 = 0) then 29 else 28
  else if [4, 6, 9, 11].contains month then 30
  else 31

def isDate (source : List Char) : Bool :=
  match source.splitOn '-' with
  | [year, month, day] =>
      match fixedNumber? 4 year, fixedNumber? 2 month, fixedNumber? 2 day with
      | some year, some month, some day =>
          1 ≤ month && month ≤ 12 && 1 ≤ day && day ≤ daysOf year month
      | _, _, _ => false
  | _ => false

def isSeconds (source : List Char) : Bool :=
  let whole := source.takeWhile (· != '.')
  let fraction := source.dropWhile (· != '.')
  (fixedNumber? 2 whole).any (· ≤ 60) &&
    (fraction.isEmpty ||
      (fraction.length != 1 && (fraction.drop 1).all Char.isDigit))

def isHourMinute (hour minute : List Char) : Bool :=
  (fixedNumber? 2 hour).any (· ≤ 23) &&
    (fixedNumber? 2 minute).any (· ≤ 59)

def isTime (source : List Char) : Bool :=
  match source.splitOn ':' with
  | [hour, minute] => isHourMinute hour minute
  | [hour, minute, seconds] => isHourMinute hour minute && isSeconds seconds
  | _ => false

def isZonedTime (source : List Char) : Bool :=
  let isZoneMark (character : Char) : Bool :=
    ['Z', 'z', '+', '-'].contains character
  let time := source.takeWhile (!isZoneMark ·)
  isTime time &&
    match source.dropWhile (!isZoneMark ·) with
    | [] | ['Z'] | ['z'] => true
    | 'Z' :: _ | 'z' :: _ => false
    | _ :: distance =>
        match distance.splitOn ':' with
        | [hour, minute] => isHourMinute hour minute
        | _ => false

/-- Whether a text is a point in time: a date, a time of day, or both with a
letter or a blank between them. -/
def isMoment (source : List Char) : Bool :=
  isDate source || isTime source ||
    (isDate (source.take 10) &&
      match source.drop 10 with
      | 'T' :: time | 't' :: time | ' ' :: time => isZonedTime time
      | _ => false)

def scalar? (source : List Char) : Option Toml :=
  if source = "true".toList then some (.flag true)
  else if source = "false".toList then some (.flag false)
  else
    match integer? source with
    | some number => if fitsWord number then some (.integer number) else none
    | none =>
        if isFloat source then some (.float (String.ofList source))
        else if isMoment source then some (.moment (String.ofList source))
        else none

/-- Split off the word that stands in front.  The blank between a date and a
time belongs to it. -/
def cutWord (source : List Char) : List Char × List Char :=
  let word := source.takeWhile isWordCharacter
  let rest := source.dropWhile isWordCharacter
  match rest with
  | ' ' :: next :: _ =>
      if isDate word && next.isDigit then
        (word ++ ' ' :: (rest.drop 1).takeWhile isWordCharacter,
          (rest.drop 1).dropWhile isWordCharacter)
      else (word, rest)
  | _ => (word, rest)

def readScalar (source : List Char) : Option (Toml × List Char) :=
  (scalar? (cutWord source).1).map (fun scalar => (scalar, (cutWord source).2))

end FieldCheck.Toml
