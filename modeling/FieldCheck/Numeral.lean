/-!
# Numerals

The bound of a rule is written as a string of ASCII digits.  A numeral keeps
the digits as written, leading zeros included, because messages and errors
repeat them; its value is read when a rule is tested.
-/

namespace FieldCheck

structure Numeral where
  digits : List Char
  nonempty : digits ≠ []
  decimal : ∀ digit ∈ digits, digit.isDigit = true
deriving DecidableEq

namespace Numeral

def text (numeral : Numeral) : String :=
  String.ofList numeral.digits

def digitValue (digit : Char) : Nat :=
  digit.toNat - '0'.toNat

def value (numeral : Numeral) : Nat :=
  numeral.digits.foldl (fun total digit => 10 * total + digitValue digit) 0

def ofChars? (characters : List Char) : Option Numeral :=
  if valid : characters ≠ [] ∧ characters.all Char.isDigit = true then
    some ⟨characters, valid.1, List.all_eq_true.mp valid.2⟩
  else
    none

theorem le_foldl_digits (start : Nat) (digits : List Char) :
    start ≤ digits.foldl
      (fun total digit => 10 * total + digitValue digit) start := by
  induction digits generalizing start with
  | nil => exact Nat.le_refl start
  | cons digit rest induction =>
      rw [List.foldl_cons]
      refine Nat.le_trans ?_ (induction _)
      omega

theorem ofChars?_eq_some_iff {characters : List Char} {numeral : Numeral} :
    ofChars? characters = some numeral ↔ characters = numeral.digits := by
  unfold ofChars?
  constructor
  · intro read
    split at read
    · rw [Option.some.injEq] at read
      rw [← read]
    · contradiction
  · intro equal
    subst equal
    rw [dif_pos ⟨numeral.nonempty, List.all_eq_true.mpr numeral.decimal⟩]

end Numeral

/-- A range of whole numbers: those of a binary word, with or without a sign. -/
structure IntegerKind where
  signed : Bool
  bits : Nat
deriving DecidableEq

namespace IntegerKind

def greatest (kind : IntegerKind) : Nat :=
  Nat.pow 2 (if kind.signed then kind.bits - 1 else kind.bits) - 1

/-- Numbers without a sign in a word of sixty-four bits, the range of every
bound that a rule is tested with. -/
def word : IntegerKind :=
  ⟨false, 64⟩

/-- The outcome of a sum or product, which is lost above the range. -/
def checked? (kind : IntegerKind) (number : Nat) : Option Nat :=
  if number ≤ kind.greatest then some number else none

/-- Put a digit behind a number.  Both the shifted number and its sum with the
digit must be in the range. -/
def appended? (kind : IntegerKind) (number : Nat) (digit : Char) :
    Option Nat :=
  (kind.checked? (10 * number)).bind
    (fun shifted => kind.checked? (shifted + Numeral.digitValue digit))

/-- Read a numeral digit by digit.  Reading ends at the first digit that leads
out of the range. -/
def read? (kind : IntegerKind) (numeral : Numeral) : Option Nat :=
  numeral.digits.foldlM kind.appended? 0

theorem checked?_of_le {kind : IntegerKind} {number : Nat}
    (within : number ≤ kind.greatest) : kind.checked? number = some number :=
  if_pos within

theorem checked?_of_lt {kind : IntegerKind} {number : Nat}
    (beyond : kind.greatest < number) : kind.checked? number = none :=
  if_neg (Nat.not_le.mpr beyond)

theorem appended?_eq (kind : IntegerKind) (number : Nat) (digit : Char) :
    kind.appended? number digit =
      kind.checked? (10 * number + Numeral.digitValue digit) := by
  unfold appended?
  by_cases within : 10 * number ≤ kind.greatest
  · rw [checked?_of_le within, Option.bind_some]
  · have beyond : kind.greatest < 10 * number := Nat.lt_of_not_le within
    rw [checked?_of_lt beyond, Option.bind_none,
      checked?_of_lt (Nat.lt_add_right _ beyond)]

theorem foldlM_appended? {kind : IntegerKind} {start : Nat}
    (within : start ≤ kind.greatest) (digits : List Char) :
    digits.foldlM kind.appended? start =
      kind.checked? (digits.foldl
        (fun total digit => 10 * total + Numeral.digitValue digit) start) := by
  induction digits generalizing start with
  | nil => exact (checked?_of_le within).symm
  | cons digit rest induction =>
      rw [List.foldlM_cons, List.foldl_cons, appended?_eq]
      by_cases next : 10 * start + Numeral.digitValue digit ≤ kind.greatest
      · rw [checked?_of_le next]
        exact induction next
      · have beyond := Nat.lt_of_not_le next
        rw [checked?_of_lt beyond, checked?_of_lt
          (Nat.lt_of_lt_of_le beyond (Numeral.le_foldl_digits _ rest))]
        rfl

/-- Reading gives the value of a numeral exactly when the range holds it,
whatever the number of its digits. -/
theorem read?_eq (kind : IntegerKind) (numeral : Numeral) :
    kind.read? numeral =
      if numeral.value ≤ kind.greatest then some numeral.value else none :=
  foldlM_appended? (Nat.zero_le kind.greatest) numeral.digits

end IntegerKind

end FieldCheck
