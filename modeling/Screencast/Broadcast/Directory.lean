/-
This file defines the directory of all stations. A station is opened for a device at its first use
and stays until it is removed or shut down.
-/

import Screencast.Broadcast.Station

namespace Screencast.Broadcast

/-- The directory remembers every station that it opened. The table leads from the serial number of
a device to the position of its station. -/
structure Directory where
  stations : List Station := []
  table : List (String × Nat) := []
  mail : Mailboxes := {}
  deriving DecidableEq, Repr

namespace Directory

def station? (directory : Directory) (position : Nat) : Option Station :=
  directory.stations[position]?

/-- A position without a station counts as a closed one. -/
def isOpen (directory : Directory) (position : Nat) : Bool :=
  ((directory.station? position).map Station.isOpen).getD false

def find? (directory : Directory) (serial : String) : Option Nat :=
  (directory.table.find? fun entry => entry.1 = serial).map Prod.snd

/-- This opens a new station and lets the table lead to it. -/
def spawn (directory : Directory) (serial : String) : Nat × Directory :=
  let position := directory.stations.length
  (position, { directory with
    stations := directory.stations ++ [{ serial }]
    table := (directory.table.filter fun entry => entry.1 ≠ serial) ++ [(serial, position)] })

/-- A device whose station is closed gets a new one. -/
def getOrSpawn (directory : Directory) (serial : String) : Nat × Directory :=
  match directory.find? serial with
  | some position =>
      if directory.isOpen position then (position, directory) else directory.spawn serial
  | none => directory.spawn serial

/-- This takes a station out of the table but does not shut it down. -/
def takeOut (directory : Directory) (serial : String) : Option Nat × Directory :=
  (directory.find? serial,
    { directory with table := directory.table.filter fun entry => entry.1 ≠ serial })

/-- This takes all stations out of the table. -/
def takeAll (directory : Directory) : List Nat × Directory :=
  (directory.table.map Prod.snd, { directory with table := [] })

/-- The station at a position handles an input. -/
def step (directory : Directory) (position : Nat) (input : Input) : Directory × List Effect :=
  match directory.station? position with
  | none => (directory, [])
  | some station =>
      let (scene, effects) := ({ station, mail := directory.mail } : Scene).step input
      ({ directory with
          stations := directory.stations.set position scene.station
          mail := scene.mail }, effects)

/-- A command to a closed station fails. -/
def command (directory : Directory) (position : Nat) (input : Input) :
    Except Fault (Directory × List Effect) :=
  if directory.isOpen position then .ok (directory.step position input) else .error .relayClosed

/-- Texts are ordered by their characters. -/
def sortTexts (texts : List String) : List String :=
  texts.mergeSort fun first second => !(second < first)

/-- These devices have a station in the table, open or closed. -/
def serials (directory : Directory) : List String := sortTexts (directory.table.map Prod.fst)

/-- These are the open stations of the table in the order of their devices. -/
def openStations (directory : Directory) : List Station :=
  (directory.serials.filterMap directory.find?).filterMap fun position =>
    (directory.station? position).filter Station.isOpen

end Directory

end Screencast.Broadcast
