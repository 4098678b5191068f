import FieldCheck.Value

/-!
# Data of records

A record stores its data in types of several widths, and behind references and
boxes.  A field has a value that forgets all this: every whole number passes
through a word of 128 bits with a sign, which is wide enough for the numbers of
all words that a record can hold.
-/

namespace FieldCheck

namespace IntegerKind

def number (kind : IntegerKind) (word : BitVec kind.bits) : Int :=
  if kind.signed then word.toInt else word.toNat

/-- The words that a record can hold.  Those of the width of the machine have
sixty-four bits. -/
def held : List IntegerKind :=
  [⟨true, 8⟩, ⟨true, 16⟩, ⟨true, 32⟩, ⟨true, 64⟩, ⟨true, 128⟩,
    ⟨false, 8⟩, ⟨false, 16⟩, ⟨false, 32⟩, ⟨false, 64⟩]

/-- Widen a word: one with a sign has its sign repeated in front, any other
one gets zeros there. -/
def widened (kind : IntegerKind) (word : BitVec kind.bits) : BitVec 128 :=
  if kind.signed then word.signExtend 128 else word.setWidth 128

/-- A word that a record can hold leaves room for a sign, if it has none. -/
theorem narrow_of_held {kind : IntegerKind} (isHeld : kind ∈ held) :
    kind.bits ≤ 128 ∧ (kind.signed = false → kind.bits < 128) := by
  have narrow : ∀ kind ∈ held,
      kind.bits ≤ 128 ∧ (kind.signed = false → kind.bits < 128) := by
    decide
  exact narrow kind isHeld

theorem toInt_widened {kind : IntegerKind} (isHeld : kind ∈ held)
    (word : BitVec kind.bits) :
    (kind.widened word).toInt = kind.number word := by
  obtain ⟨narrow, roomForSign⟩ := narrow_of_held isHeld
  unfold widened number
  cases signed : kind.signed with
  | true =>
      rw [if_pos rfl, if_pos rfl]
      exact BitVec.toInt_signExtend_of_le narrow
  | false =>
      have small : word.toNat < 2 ^ 127 :=
        Nat.lt_of_lt_of_le word.isLt
          (Nat.pow_le_pow_right (by decide)
            (Nat.le_of_lt_succ (roomForSign signed)))
      have kept : (word.setWidth 128).toNat = word.toNat :=
        BitVec.toNat_setWidth_of_le narrow
      rw [if_neg Bool.false_ne_true, if_neg Bool.false_ne_true, ← kept]
      apply BitVec.toInt_eq_toNat_of_lt
      omega

end IntegerKind

/-- What a record stores under a field. -/
inductive Datum where
  | text (content : String)
  | integer (kind : IntegerKind) (isHeld : kind ∈ IntegerKind.held)
      (word : BitVec kind.bits)
  | single (number : Float32)
  | double (number : Float)
  | flag (truth : Bool)
  | optional
  | list
  | reference (target : Datum)
  | box (content : Datum)

/-- The value of a field that is bound to a datum.  Optional data and lists
have none that rules could be tested on, whatever they hold. -/
def Datum.value : Datum → Value
  | .text content => .text content
  | .integer kind _ word => .integer (kind.widened word).toInt
  | .single number => .float number.toFloat
  | .double number => .float number
  | .flag truth => .flag truth
  | .optional | .list => .unsupported
  | .reference target => target.value
  | .box content => content.value

end FieldCheck
