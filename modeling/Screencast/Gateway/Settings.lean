/-
This file holds the settings of the gateway.
-/

import Screencast.Address
import Screencast.Text.Span

namespace Screencast.Gateway

structure Settings where
  /-- The gateway listens on this address. -/
  address : Address := ⟨.four 0 0 0 0, 7100⟩
  /-- Zero sets no limit. -/
  maxConnections : Nat := 0
  pingInterval : Span := .ofSeconds 10
  /-- A viewer that sends nothing for longer is disconnected. -/
  idleLimit : Span := .ofSeconds 60
  /-- This many messages wait for a viewer before frames are lost. -/
  queueCapacity : Nat := 64
  deriving DecidableEq, Repr

namespace Settings

/-- Everything but the address has its default. -/
def withAddress (address : Address) : Settings := { address }

/-- Pings are at least a millisecond apart. -/
def withPingInterval (settings : Settings) (interval : Span) : Settings :=
  { settings with
    pingInterval := ⟨max interval.nanoseconds (Span.ofMilliseconds 1).nanoseconds⟩ }

/-- There is room for at least one message. -/
def withQueueCapacity (settings : Settings) (capacity : Nat) : Settings :=
  { settings with queueCapacity := max capacity 1 }

end Settings

end Screencast.Gateway
