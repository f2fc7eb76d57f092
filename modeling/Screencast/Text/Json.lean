/-
This file writes compact JSON texts.
-/

import Screencast.Text.Digits

namespace Screencast.Text.Json

/-- Controls without a short form have four hexadecimal digits. -/
def control (letter : Char) : List Char :=
  ['\\', 'u', '0', '0', hexDigit (letter.toNat / 16), hexDigit (letter.toNat % 16)]

/-- Only the quote, the backslash and the controls are escaped inside a string. -/
def escape (letter : Char) : List Char :=
  if letter = '\"' ∨ letter = '\\' then ['\\', letter]
  else if letter.toNat = 0x08 then ['\\', 'b']
  else if letter.toNat = 0x0C then ['\\', 'f']
  else if letter = '\n' then ['\\', 'n']
  else if letter = '\r' then ['\\', 'r']
  else if letter = '\t' then ['\\', 't']
  else if letter.toNat < 0x20 then control letter
  else [letter]

/-- The values that the messages of this library hold. -/
inductive Value
  | string (text : String)
  | number (value : Nat)
  | boolean (value : Bool)
  | object (fields : List (String × Value))

/-- A string stands between quotes. -/
def writeString (text : String) : List Char :=
  '\"' :: text.toList.flatMap escape ++ ['\"']

mutual

/-- A value has no white space between its tokens. -/
def write : Value → List Char
  | .string text => writeString text
  | .number value => (toString value).toList
  | .boolean value => (toString value).toList
  | .object fields => '\x7b' :: writeFields fields ++ ['\x7d']

/-- The fields of an object are separated by commas and keep their order. -/
def writeFields : List (String × Value) → List Char
  | [] => []
  | [(name, value)] => writeString name ++ ':' :: write value
  | (name, value) :: rest => writeString name ++ ':' :: write value ++ ',' :: writeFields rest

end

/-- The text of a value is one line. -/
def text (value : Value) : String := String.ofList (write value)

/-- A writer gives texts to values. To serialize a record may fail with a message, and to display a
value that is held already may not. -/
structure Writer where
  serialize : Value → Except String String
  display : Value → String

/-- This writer fails for no value. -/
def Writer.compact : Writer where
  serialize value := .ok (text value)
  display := text

end Screencast.Text.Json
