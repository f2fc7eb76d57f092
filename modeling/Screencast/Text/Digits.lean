/-
This file writes and reads numbers as digits.
-/

namespace Screencast.Text

/-- This is the lower-case hexadecimal digit of a number below sixteen. -/
def hexDigit (value : Nat) : Char :=
  if value < 10 then Char.ofNat (48 + value) else Char.ofNat (87 + value)

/-- This is the shortest hexadecimal form of a number. -/
def hexDigits (value : Nat) : List Char :=
  if value < 16 then [hexDigit value]
  else hexDigits (value / 16) ++ [hexDigit (value % 16)]
termination_by value

/-- An octet always has two hexadecimal digits. -/
def hexPair (octet : UInt8) : List Char :=
  [hexDigit (octet.toNat / 16), hexDigit (octet.toNat % 16)]

/-- A decimal digit has its value, and no other character has one. -/
def digitValue? (letter : Char) : Option Nat :=
  if 48 ≤ letter.toNat ∧ letter.toNat ≤ 57 then some (letter.toNat - 48) else none

/-- A nonempty run of decimal digits spells a number. -/
def decimal? (letters : List Char) : Option Nat :=
  match letters with
  | [] => none
  | _ => letters.foldlM (fun value letter => (digitValue? letter).map (value * 10 + ·)) 0

/-- A 32-bit number is an optional plus sign and decimal digits whose value fits. -/
def word? (letters : List Char) : Option UInt32 := do
  let value ← decimal? (if letters.head? = some '+' then letters.tail else letters)
  if value < UInt32.size then some value.toUInt32 else none

end Screencast.Text
