/-!
# The order of keys

Keys are compared byte by byte in their UTF-8 encoding, and a key comes before
its own extensions.
-/

namespace FieldCheck.Text

def bytes (text : String) : List UInt8 :=
  text.toByteArray.data.toList

/-- The key order: lexicographic on the bytes of the UTF-8 encoding. -/
def Before (left right : String) : Prop :=
  bytes left < bytes right

instance (left right : String) : Decidable (Before left right) :=
  inferInstanceAs (Decidable (bytes left < bytes right))

theorem bytes_injective {left right : String}
    (equal : bytes left = bytes right) : left = right := by
  apply String.toByteArray_inj.mp
  apply ByteArray.ext
  exact Array.toList_inj.mp equal

theorem not_before_self (text : String) : ¬ Before text text :=
  List.lt_irrefl _

theorem Before.trans {first second third : String}
    (left : Before first second) (right : Before second third) :
    Before first third :=
  List.lt_trans left right

theorem eq_of_not_before {left right : String}
    (notLeft : ¬ Before left right) (notRight : ¬ Before right left) :
    left = right := by
  apply bytes_injective
  exact List.le_antisymm notRight notLeft

end FieldCheck.Text
