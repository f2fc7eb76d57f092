/-
This file decodes UTF-8. A decoder state holds the unfinished character, so the decoder reads one
octet at a time and reports each maximal ill-formed part once.
-/

import Screencast.Octets

namespace Screencast.Text.Utf8

/-- A decoder is between characters, or it has read the start of one. -/
inductive Pending
  | nothing
  /-- The value read so far, the octets that may follow, and how many more follow after the next. -/
  | partly (value : Nat) (low high : UInt8) (more : Nat)

/-- An octet between characters is an ASCII character, a lead octet, or ill-formed. -/
def start (octet : UInt8) : Option (Option Char) × Pending :=
  let value := octet.toNat
  if value < 0x80 then (some (some (Char.ofNat value)), .nothing)
  else if value < 0xC2 then (some none, .nothing)
  else if value < 0xE0 then (none, .partly (value - 0xC0) 0x80 0xBF 0)
  else if value = 0xE0 then (none, .partly 0 0xA0 0xBF 1)
  else if value = 0xED then (none, .partly 0xD 0x80 0x9F 1)
  else if value < 0xF0 then (none, .partly (value - 0xE0) 0x80 0xBF 1)
  else if value = 0xF0 then (none, .partly 0 0x90 0xBF 2)
  else if value < 0xF4 then (none, .partly (value - 0xF0) 0x80 0xBF 2)
  else if value = 0xF4 then (none, .partly 4 0x80 0x8F 2)
  else (some none, .nothing)

/-- The decoded characters of a stream have `none` for each maximal ill-formed part. -/
def scan : Pending → Octets → List (Option Char)
  | .nothing, [] => []
  | .partly .., [] => [none]
  | .nothing, octet :: rest =>
      let (found, pending) := start octet
      found.toList ++ scan pending rest
  | .partly value low high more, octet :: rest =>
      if low ≤ octet ∧ octet ≤ high then
        let value := value * 64 + (octet.toNat - 0x80)
        match more with
        | 0 => some (Char.ofNat value) :: scan .nothing rest
        | more + 1 => scan (.partly value 0x80 0xBF more) rest
      else
        let (found, pending) := start octet
        none :: (found.toList ++ scan pending rest)

/-- Each ill-formed part becomes one replacement character. -/
def decodeLossy (octets : Octets) : String :=
  String.ofList ((scan .nothing octets).map fun found => found.getD (Char.ofNat 0xFFFD))

/-- A stream with an ill-formed part has no exact text. -/
def decode? (octets : Octets) : Option String :=
  ((scan .nothing octets).mapM id).map String.ofList

end Screencast.Text.Utf8
