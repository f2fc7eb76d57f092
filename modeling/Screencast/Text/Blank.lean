/-
This file decides which characters are white space and trims them off both ends of a text.
-/

namespace Screencast.Text

/-- A character is blank when Unicode gives it the property `White_Space`. -/
def isBlank (letter : Char) : Bool :=
  let code := letter.toNat
  (0x09 ≤ code && code ≤ 0x0D) || code == 0x20 || code == 0x85 || code == 0xA0 ||
    code == 0x1680 || (0x2000 ≤ code && code ≤ 0x200A) || code == 0x2028 || code == 0x2029 ||
    code == 0x202F || code == 0x205F || code == 0x3000

/-- This drops the blanks at both ends of a character list. -/
def trimBlanks (letters : List Char) : List Char :=
  ((letters.dropWhile isBlank).reverse.dropWhile isBlank).reverse

/-- This drops the blanks at both ends of a text. -/
def trim (text : String) : String :=
  String.ofList (trimBlanks text.toList)

end Screencast.Text
