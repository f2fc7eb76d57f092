/-
This file quotes texts for messages, so that every character of a quoted text is visible.
-/

import Screencast.Text.Digits
import Screencast.Text.Extending
import Screencast.Text.Ignorable
import Screencast.Text.Unprintable

namespace Screencast.Text.Quoted

/-- A character code is written in hexadecimal between braces. -/
def codePoint (letter : Char) : List Char :=
  ['\\', 'u', '\x7b'] ++ hexDigits letter.toNat ++ ['\x7d']

/-- The quote, the backslash and four controls have short forms. -/
def escape (letter : Char) : List Char :=
  if letter = '\"' ∨ letter = '\\' then ['\\', letter]
  else if letter = '\t' then ['\\', 't']
  else if letter = '\n' then ['\\', 'n']
  else if letter = '\r' then ['\\', 'r']
  else if letter.toNat = 0 then ['\\', '0']
  else if isExtending letter || isIgnorable letter || isUnprintable letter then codePoint letter
  else [letter]

/-- A quoted text stands between quotes. -/
def encode (text : String) : String :=
  String.ofList ('\"' :: text.toList.flatMap escape ++ ['\"'])

end Screencast.Text.Quoted
