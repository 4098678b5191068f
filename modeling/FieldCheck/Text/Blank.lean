/-!
# Blank characters

White space is stripped around rule tokens, setting values and level names.
Everywhere it means the Unicode property `White_Space`, which has twenty-five
characters; the letters of a setting's value are compared without regard to
ASCII case.
-/

namespace FieldCheck.Text

/-- The Unicode property `White_Space`. -/
def isBlank (character : Char) : Bool :=
  let code := character.toNat
  (0x09 ≤ code && code ≤ 0x0D) || code == 0x20 || code == 0x85 ||
    code == 0xA0 || code == 0x1680 || (0x2000 ≤ code && code ≤ 0x200A) ||
    code == 0x2028 || code == 0x2029 || code == 0x202F || code == 0x205F ||
    code == 0x3000

/-- No printable ASCII character but the space is blank. -/
theorem not_blank_of_printable {character : Char}
    (above : 0x20 < character.toNat) (below : character.toNat < 0x7F) :
    isBlank character = false := by
  simp only [isBlank, Bool.or_eq_false_iff, Bool.and_eq_false_iff,
    decide_eq_false_iff_not, beq_eq_false_iff_ne]
  omega

def trimmed (characters : List Char) : List Char :=
  ((characters.dropWhile isBlank).reverse.dropWhile isBlank).reverse

def trim (text : String) : String :=
  String.ofList (trimmed text.toList)

def lowered (text : String) : String :=
  String.ofList (text.toList.map Char.toLower)

/-- The form in which a setting's value is compared with its names: without
blank ends and in small letters. -/
def normalized (text : String) : String :=
  lowered (trim text)

@[simp] theorem toList_trim (text : String) :
    (trim text).toList = trimmed text.toList := by
  simp [trim]

@[simp] theorem toList_lowered (text : String) :
    (lowered text).toList = text.toList.map Char.toLower := by
  simp [lowered]

end FieldCheck.Text
