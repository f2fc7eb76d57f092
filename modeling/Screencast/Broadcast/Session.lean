/-
This file defines a session: one source of a device and the viewers that are subscribed to it. The
source is started for the first viewer and stopped after the last one. While it starts, the session
goes on handling other inputs.
-/

import Screencast.Broadcast.Mailbox
import Screencast.SourceEvent

namespace Screencast.Broadcast

/-- A source is handed out while it starts and runs while it is live. -/
inductive SessionState
  | idle
  | starting
  | live
  deriving DecidableEq, Repr

/-- A subscriber is announced when the start message of the running stream was offered to it. -/
structure Subscriber where
  viewer : ViewerId
  announced : Bool := false
  deriving DecidableEq, Repr

/-- A start attempt reports one of these. -/
inductive Outcome
  | live (info : StartInfo)
  | cancelled
  | failed (fault : Fault)
  deriving DecidableEq, Repr

/-- These are the calls that a source receives. -/
inductive SourceCall
  | start
  | stop
  deriving DecidableEq, Repr

/-- A session calls its source and offers messages to viewers. -/
inductive Effect
  | call (format : Format) (call : SourceCall)
  | offer (format : Format) (viewer : ViewerId) (message : Message) (delivery : Delivery)
  deriving DecidableEq, Repr

structure Session where
  format : Format
  state : SessionState := .idle
  /-- The source is here except while it starts. -/
  sourceHome : Bool := true
  /-- This describes the running stream. -/
  info : Option StartInfo := none
  /-- The session receives the events of the running stream. -/
  listening : Bool := false
  /-- The token of a pending start says whether the start was cancelled. -/
  token : Option Bool := none
  subscribers : List Subscriber := []
  starts : Nat := 0
  stops : Nat := 0
  relayed : Nat := 0
  dropped : Nat := 0
  deriving DecidableEq, Repr

namespace Session

def contains (session : Session) (viewer : ViewerId) : Bool :=
  session.subscribers.any fun subscriber => subscriber.viewer = viewer

/-- Only viewers of images are told that a start failed. -/
def reportsFailure (session : Session) : Bool := session.format = .jpeg

/-- A viewer is added once. -/
def join (session : Session) (viewer : ViewerId) : Session :=
  { session with subscribers :=
      if session.contains viewer then session.subscribers
      else session.subscribers ++ [{ viewer }] }

def markAnnounced (session : Session) (viewer : ViewerId) : Session :=
  { session with subscribers := session.subscribers.map fun subscriber =>
      if subscriber.viewer = viewer then { subscriber with announced := true } else subscriber }

end Session

/-- A turn is the handling of one input: the session and the queues so far, and what was done. -/
structure Turn where
  session : Session
  mail : Mailboxes
  effects : List Effect := []
  deriving DecidableEq, Repr

namespace Turn

def call (turn : Turn) (call : SourceCall) : Turn :=
  { turn with effects := turn.effects ++ [.call turn.session.format call] }

def offer (turn : Turn) (viewer : ViewerId) (message : Message) : Delivery × Turn :=
  let (delivery, mail) := turn.mail.offer viewer message
  (delivery, { turn with
    mail
    effects := turn.effects ++ [.offer turn.session.format viewer message delivery] })

/-- The messages are offered in their order, and what becomes of them does not matter. -/
def offerEach (turn : Turn) (viewer : ViewerId) (messages : List Message) : Turn :=
  messages.foldl (fun turn message => (turn.offer viewer message).2) turn

/-- A source that is handed out already is not started again. -/
def start (turn : Turn) : Turn :=
  if turn.session.sourceHome then
    { turn with session := { turn.session with
        sourceHome := false, token := some false, state := .starting
        starts := turn.session.starts + 1 } }.call .start
  else turn

def stopSource (turn : Turn) : Turn :=
  let stopped := if turn.session.sourceHome then turn.call .stop else turn
  { stopped with session := { stopped.session with stops := stopped.session.stops + 1 } }

/-- The stream is over before the source is stopped. -/
def stopLive (turn : Turn) : Turn :=
  { turn with session := { turn.session with
      listening := false, info := none, state := .idle } }.stopSource

/-- A viewer is told the start of the stream and what it needs to catch up. -/
def announce (turn : Turn) (info : StartInfo) (catchUp : List Octets) (viewer : ViewerId) : Turn :=
  { turn with session := turn.session.markAnnounced viewer }.offerEach viewer
    (.start info :: catchUp.map .frame)

/-- The first viewer starts the source. A viewer that joins a running stream is told at once. -/
def subscribe (turn : Turn) (viewer : ViewerId) (catchUp : List Octets) : Turn :=
  let joined := { turn with session := turn.session.join viewer }
  match joined.session.state with
  | .idle => joined.start
  | .starting => joined
  | .live =>
      match joined.session.info with
      | none => joined
      | some info =>
          if joined.session.subscribers.any fun subscriber =>
              subscriber.viewer = viewer && !subscriber.announced then
            joined.announce info catchUp viewer
          else joined

/-- This removes viewers and tells whether that stopped a running source. The last viewer to leave
stops the source, or cancels its start. -/
def unsubscribe (turn : Turn) (gone : List ViewerId) : Bool × Turn :=
  if turn.session.subscribers.any fun subscriber => subscriber.viewer ∈ gone then
    let rest := turn.session.subscribers.filter fun subscriber => subscriber.viewer ∉ gone
    let left := { turn with session := { turn.session with subscribers := rest } }
    if !rest.isEmpty then (false, left)
    else
      match left.session.state with
      | .idle => (false, left)
      | .starting =>
          (false, { left with session := { left.session with
            token := left.session.token.map fun _ => true } })
      | .live => (true, left.stopLive)
  else (false, turn)

/-- This offers a message to one more viewer, and counts it when a full queue loses it. A viewer whose
queue is closed joins those that were found closed before. -/
def offerCounted (message : Message) : List ViewerId × Turn → ViewerId → List ViewerId × Turn
  | (closed, turn), viewer =>
      match turn.offer viewer message with
      | (.sent, turn) => (closed, turn)
      | (.dropped, turn) =>
          (closed, { turn with session := { turn.session with
            dropped := turn.session.dropped + 1 } })
      | (.closed, turn) => (closed ++ [viewer], turn)

/-- This offers a message to some viewers. Those whose queue is closed are removed. -/
def deliver (turn : Turn) (message : Message) (viewers : List ViewerId) : Bool × Turn :=
  let (closed, offered) := viewers.foldl (offerCounted message) ([], turn)
  offered.unsubscribe closed

/-- The stream of a source is open to its viewers. Without viewers it is stopped at once. -/
def goLive (turn : Turn) (info : StartInfo) : Turn :=
  if turn.session.subscribers.isEmpty then turn.stopSource
  else
    let live := { turn with session := { turn.session with
      state := .live, listening := true, info := some info } }
    (turn.session.subscribers.map Subscriber.viewer).foldl
      (fun turn viewer => turn.announce info [] viewer) live

/-- A start attempt that did not succeed has stopped its source before it reports. A cancelled
start is made again when viewers came meanwhile. -/
def started (turn : Turn) (outcome : Outcome) : Turn :=
  let home := { turn with session := { turn.session with
    sourceHome := true, token := none, state := .idle } }
  match outcome with
  | .live info => home.goLive info
  | .cancelled =>
      let stopped := home.call .stop
      let counted := { stopped with session := { stopped.session with
        stops := stopped.session.stops + 1 } }
      if counted.session.subscribers.isEmpty then counted else counted.start
  | .failed fault =>
      let stopped := home.call .stop
      if stopped.session.reportsFailure then
        (stopped.deliver (.failure fault.message)
          (stopped.session.subscribers.map Subscriber.viewer)).2
      else stopped

/-- The viewers of a stream that ended stay, and a later start is announced to them again. -/
def ended (turn : Turn) : Turn :=
  let stopped := turn.stopLive
  { stopped with session := { stopped.session with
    subscribers := stopped.session.subscribers.map fun subscriber =>
      { subscriber with announced := false } } }

/-- A payload goes to every announced viewer. -/
def relay (turn : Turn) (payload : Octets) : Bool × Turn :=
  let counted := { turn with session := { turn.session with
    relayed := turn.session.relayed + 1 } }
  counted.deliver (.frame payload)
    ((counted.session.subscribers.filter Subscriber.announced).map Subscriber.viewer)

/-- The last input removes all viewers. A pending start is cancelled and its outcome awaited. -/
def shutdown (turn : Turn) (outcome : Outcome) : Turn :=
  let emptied := { turn with session := { turn.session with subscribers := [] } }
  let settled :=
    match emptied.session.token with
    | none => emptied
    | some _ => emptied.started outcome
  if settled.session.state = .live then settled.stopLive else settled

end Turn

end Screencast.Broadcast
