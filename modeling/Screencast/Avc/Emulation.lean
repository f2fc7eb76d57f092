/-
This file removes the octets that keep start codes out of a unit.
-/

import Screencast.Octets

namespace Screencast.Avc

/-- An octet of value three behind two or more zero octets carries no data. The count runs over the
zero octets in front. -/
def stripFrom (zeros : Nat) : Octets → Octets
  | [] => []
  | octet :: rest =>
      if 2 ≤ zeros ∧ octet = 3 then stripFrom 0 rest
      else octet :: stripFrom (if octet = 0 then zeros + 1 else 0) rest

/-- This gives the data of a unit without its emulation prevention octets. -/
def stripEmulation (octets : Octets) : Octets := stripFrom 0 octets

end Screencast.Avc
