/-
This file decodes the percent escapes of a path segment.
-/

import Screencast.Octets
import Screencast.Text.Digits
import Screencast.Text.Utf8

namespace Screencast.Text.Percent

/-- Letters of both cases are hexadecimal digits. -/
def hexValue? (letter : Char) : Option Nat :=
  let code := letter.toNat
  if 97 ≤ code ∧ code ≤ 102 then some (code - 87)
  else if 65 ≤ code ∧ code ≤ 70 then some (code - 55)
  else digitValue? letter

/-- An escape is a percent sign and two hexadecimal digits. Everything else stands for itself. -/
def octets : List Char → Octets
  | '%' :: high :: low :: rest =>
      match hexValue? high, hexValue? low with
      | some high, some low => (high * 16 + low).toUInt8 :: octets rest
      | _, _ => 37 :: octets (high :: low :: rest)
  | letter :: rest => String.utf8EncodeChar letter ++ octets rest
  | [] => []

/-- Escapes that spell ill-formed UTF-8 have no text. -/
def decode? (segment : String) : Option String := Utf8.decode? (octets segment.toList)

end Screencast.Text.Percent
