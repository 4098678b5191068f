/-!
# Decimal fractions

A decimal fraction is a whole number of digits scaled by a power of ten.  Its
written form has a whole part or a fraction, or both, and may have an
exponent; the words for infinity and for no number at all are read in any
ASCII case.
-/

namespace FieldCheck

/-- The fraction `± digits * 10 ^ exponent`. -/
structure Decimal where
  negative : Bool
  digits : Nat
  exponent : Int
deriving DecidableEq

namespace Decimal

inductive Reading where
  | notANumber
  | infinite (negative : Bool)
  | finite (decimal : Decimal)

def ofDigits (digits : List Char) : Nat :=
  digits.foldl (fun total digit => 10 * total + (digit.toNat - '0'.toNat)) 0

def exponent? : List Char → Option Int
  | [] => some 0
  | mark :: rest =>
      if mark == 'e' || mark == 'E' then
        let (negative, digits) :=
          match rest with
          | '-' :: digits => (true, digits)
          | '+' :: digits => (false, digits)
          | digits => (false, digits)
        if !digits.isEmpty && digits.all Char.isDigit then
          let size : Int := ofDigits digits
          some (if negative then -size else size)
        else none
      else none

def magnitude? (negative : Bool) (source : List Char) : Option Decimal := do
  let whole := source.takeWhile Char.isDigit
  let (fraction, rest) :=
    match source.dropWhile Char.isDigit with
    | '.' :: rest => (rest.takeWhile Char.isDigit, rest.dropWhile Char.isDigit)
    | rest => ([], rest)
  if whole.isEmpty && fraction.isEmpty then none
  else
    let exponent ← exponent? rest
    return ⟨negative, ofDigits (whole ++ fraction), exponent - fraction.length⟩

def unsigned? (negative : Bool) (source : List Char) : Option Reading :=
  match String.ofList (source.map Char.toLower) with
  | "nan" => some .notANumber
  | "inf" | "infinity" => some (.infinite negative)
  | _ => (magnitude? negative source).map .finite

def read? (source : String) : Option Reading :=
  match source.toList with
  | '-' :: rest => unsigned? true rest
  | '+' :: rest => unsigned? false rest
  | rest => unsigned? false rest

end Decimal

end FieldCheck
