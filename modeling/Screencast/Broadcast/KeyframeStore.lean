/-
This file keeps the units that a viewer needs to join a running stream.
-/

import Screencast.Nal.Demuxer

namespace Screencast.Broadcast

/-- The store holds the latest unit of each of three types, with its start code. -/
structure KeyframeStore where
  sps : Option Octets := none
  pps : Option Octets := none
  idr : Option Octets := none
  deriving DecidableEq, Repr

namespace KeyframeStore

/-- A unit replaces the earlier one of its type. -/
def observeUnit (store : KeyframeStore) (unit : Nal) : KeyframeStore :=
  if unit.isSps then { store with sps := some unit.data }
  else if unit.isPps then { store with pps := some unit.data }
  else if unit.isKeyframe then { store with idr := some unit.data }
  else store

/-- A payload is observed unit by unit. -/
def observe (store : KeyframeStore) (payload : Octets) : KeyframeStore :=
  (Nal.split payload).foldl observeUnit store

/-- The parameter sets come before the keyframe that needs them. -/
def snapshot (store : KeyframeStore) : List Octets :=
  [store.sps, store.pps, store.idr].filterMap id

def isEmpty (store : KeyframeStore) : Bool :=
  store.sps.isNone && store.pps.isNone && store.idr.isNone

end KeyframeStore

end Screencast.Broadcast
