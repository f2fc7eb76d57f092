/-
This file defines the boxes of an MP4 file and writes them.
-/

import Screencast.Octets

namespace Screencast.Mp4

/-- A box has a kind of four letters and holds fields, then boxes. -/
inductive Box
  | box (kind : String) (fields : Octets) (children : List Box)

namespace Box

/-- A box without boxes inside holds fields only. -/
def leaf (kind : String) (fields : Octets) : Box := .box kind fields []

/-- A box without fields holds boxes only. -/
def node (kind : String) (children : List Box) : Box := .box kind [] children

/-- The fields of a full box begin with its version and flags. -/
def full (kind : String) (version flags : Nat) (fields : Octets) (children : List Box) : Box :=
  .box kind (Octets.bigEndian 1 version ++ Octets.bigEndian 3 flags ++ fields) children

mutual

/-- A box is written behind its own size, which counts the size and the kind too. -/
def octets : Box → Octets
  | .box kind fields children =>
      let body := fields ++ octetsOfAll children
      Octets.bigEndian 4 (8 + body.length) ++ Octets.ascii kind ++ body

/-- Boxes side by side have nothing between them. -/
def octetsOfAll : List Box → Octets
  | [] => []
  | first :: rest => first.octets ++ octetsOfAll rest

end

end Box

end Screencast.Mp4
