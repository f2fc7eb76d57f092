/-
This file shows that the sessions of a station do not depend on each other. A run without the inputs
of one format goes on in the same way for the other one.
-/

import Screencast.Proofs.Broadcast.Isolation
import Screencast.Proofs.Broadcast.Keyframes

namespace Screencast.Broadcast

namespace Turn

/-- These turns have the same session and the same effects, and the queues of some viewers are the
same. -/
structure Alike (own : ViewerId → Prop) (first second : Turn) : Prop where
  session : first.session = second.session
  effects : first.effects = second.effects
  queues : ∀ viewer, own viewer → first.mail.get viewer = second.mail.get viewer

namespace Alike

variable {own : ViewerId → Prop} {first second : Turn} (alike : Alike own first second)

include alike

theorem put (session : Session) :
    Alike own { first with session } { second with session } :=
  ⟨rfl, alike.effects, alike.queues⟩

theorem call (sent : SourceCall) : Alike own (first.call sent) (second.call sent) where
  session := alike.session
  effects := by rw [Turn.call, Turn.call, alike.session, alike.effects]
  queues := alike.queues

/-- The queue of such a viewer answers the same. -/
theorem offer {viewer : ViewerId} (mine : own viewer) (message : Message) :
    (first.offer viewer message).1 = (second.offer viewer message).1 ∧
      Alike own (first.offer viewer message).2 (second.offer viewer message).2 := by
  have same := alike.queues viewer mine
  have answer : (first.offer viewer message).1 = (second.offer viewer message).1 := by
    simp only [Turn.offer, Mailboxes.offer, same]
  refine ⟨answer, alike.session, ?_, fun other theirs => ?_⟩
  · rw [offer_effects, offer_effects, answer, alike.session, alike.effects]
  · simp only [Turn.offer, Mailboxes.offer, same]
    by_cases equal : other = viewer
    · rw [equal, Mailboxes.get_set_self, Mailboxes.get_set_self]
    · rw [Mailboxes.get_set_of_ne _ _ equal, Mailboxes.get_set_of_ne _ _ equal,
        alike.queues other theirs]

theorem offerEach {viewer : ViewerId} (mine : own viewer) (messages : List Message) :
    Alike own (first.offerEach viewer messages) (second.offerEach viewer messages) := by
  induction messages generalizing first second with
  | nil => exact alike
  | cons message rest inductionHypothesis =>
      exact inductionHypothesis (alike.offer mine message).2

theorem announce {viewer : ViewerId} (mine : own viewer) (info : StartInfo)
    (catchUp : List Octets) :
    Alike own (first.announce info catchUp viewer) (second.announce info catchUp viewer) := by
  rw [Turn.announce, Turn.announce, alike.session]
  exact (alike.put _).offerEach mine _

theorem start : Alike own first.start second.start := by
  rw [Turn.start, Turn.start, alike.session]
  split
  · exact (alike.put _).call .start
  · exact alike

theorem stopSource : Alike own first.stopSource second.stopSource := by
  rw [Turn.stopSource, Turn.stopSource, alike.session]
  split
  · have called := alike.call .stop
    dsimp only
    rw [called.session]
    exact called.put _
  · dsimp only
    rw [alike.session]
    exact alike.put _

theorem stopLive : Alike own first.stopLive second.stopLive := by
  rw [Turn.stopLive, Turn.stopLive, alike.session]
  exact (alike.put _).stopSource

theorem subscribe {viewer : ViewerId} (mine : own viewer) (catchUp : List Octets) :
    Alike own (first.subscribe viewer catchUp) (second.subscribe viewer catchUp) := by
  have joined := alike.put (second.session.join viewer)
  rw [Turn.subscribe, Turn.subscribe, alike.session]
  dsimp only
  split
  · exact joined.start
  · exact joined
  · split
    · exact joined
    · split
      · exact joined.announce mine _ _
      · exact joined

theorem unsubscribe (gone : List ViewerId) :
    (first.unsubscribe gone).1 = (second.unsubscribe gone).1 ∧
      Alike own (first.unsubscribe gone).2 (second.unsubscribe gone).2 := by
  rw [Turn.unsubscribe, Turn.unsubscribe, alike.session]
  dsimp only
  split
  · split
    · exact ⟨rfl, alike.put _⟩
    · split
      · exact ⟨rfl, alike.put _⟩
      · exact ⟨rfl, alike.put _⟩
      · exact ⟨rfl, (alike.put _).stopLive⟩
  · exact ⟨rfl, alike⟩

theorem offerCounted {viewer : ViewerId} (mine : own viewer) (message : Message)
    (closed : List ViewerId) :
    (Turn.offerCounted message (closed, first) viewer).1 =
        (Turn.offerCounted message (closed, second) viewer).1 ∧
      Alike own (Turn.offerCounted message (closed, first) viewer).2
        (Turn.offerCounted message (closed, second) viewer).2 := by
  obtain ⟨answer, alike⟩ := alike.offer mine message
  rcases one : first.offer viewer message with ⟨delivery, next⟩
  rcases two : second.offer viewer message with ⟨_, other⟩
  rw [one, two] at answer alike
  obtain rfl : delivery = _ := answer
  simp only [Turn.offerCounted, one, two]
  cases delivery with
  | sent | closed => exact ⟨rfl, alike⟩
  | dropped =>
      have session : next.session = other.session := alike.session
      dsimp only
      rw [session]
      exact ⟨rfl, alike.put _⟩

theorem deliver {viewers : List ViewerId} (mine : ∀ viewer ∈ viewers, own viewer)
    (message : Message) :
    (first.deliver message viewers).1 = (second.deliver message viewers).1 ∧
      Alike own (first.deliver message viewers).2 (second.deliver message viewers).2 := by
  have offered (closed : List ViewerId) :
      (viewers.foldl (Turn.offerCounted message) (closed, first)).1 =
          (viewers.foldl (Turn.offerCounted message) (closed, second)).1 ∧
        Alike own (viewers.foldl (Turn.offerCounted message) (closed, first)).2
          (viewers.foldl (Turn.offerCounted message) (closed, second)).2 := by
    induction viewers generalizing closed first second with
    | nil => exact ⟨rfl, alike⟩
    | cons viewer rest inductionHypothesis =>
        obtain ⟨here, others⟩ := List.forall_mem_cons.1 mine
        obtain ⟨same, next⟩ := alike.offerCounted here message closed
        rw [List.foldl_cons, List.foldl_cons, ← Prod.eta (Turn.offerCounted ..),
          ← Prod.eta (Turn.offerCounted message (closed, second) viewer), same]
        exact inductionHypothesis next others _
  obtain ⟨gone, alike⟩ := offered []
  rw [Turn.deliver, Turn.deliver]
  dsimp only
  rw [gone]
  exact alike.unsubscribe _

theorem announceAll {viewers : List ViewerId} (mine : ∀ viewer ∈ viewers, own viewer)
    (info : StartInfo) :
    Alike own (viewers.foldl (fun turn viewer => turn.announce info [] viewer) first)
      (viewers.foldl (fun turn viewer => turn.announce info [] viewer) second) := by
  induction viewers generalizing first second with
  | nil => exact alike
  | cons viewer rest inductionHypothesis =>
      obtain ⟨here, others⟩ := List.forall_mem_cons.1 mine
      exact inductionHypothesis (alike.announce here info []) others

section

variable (mine : ∀ viewer ∈ second.session.subscribers.map Subscriber.viewer, own viewer)

include mine

theorem goLive (info : StartInfo) : Alike own (first.goLive info) (second.goLive info) := by
  rw [Turn.goLive, Turn.goLive, alike.session]
  split
  · exact alike.stopSource
  · exact (alike.put _).announceAll mine info

theorem started (outcome : Outcome) :
    Alike own (first.started outcome) (second.started outcome) := by
  have home := alike.put { second.session with sourceHome := true, token := none, state := .idle }
  have stopped := home.call .stop
  cases outcome with
  | live info =>
      rw [Turn.started, Turn.started, alike.session]
      exact home.goLive mine info
  | cancelled =>
      by_cases empty : second.session.subscribers = []
      · rw [started_cancelled_unwatched (alike.session ▸ empty), started_cancelled_unwatched empty,
          alike.session, alike.effects]
        exact ⟨rfl, rfl, alike.queues⟩
      · rw [started_cancelled_watched (alike.session ▸ empty), started_cancelled_watched empty,
          alike.session, alike.effects]
        exact ⟨rfl, rfl, alike.queues⟩
  | failed fault =>
      have unfolded (turn : Turn) : turn.started (.failed fault) =
          let stopped := { turn with session := { turn.session with
            sourceHome := true, token := none, state := .idle } }.call .stop
          if turn.session.reportsFailure then
            (stopped.deliver (.failure fault.message)
              (turn.session.subscribers.map Subscriber.viewer)).2
          else stopped := rfl
      rw [unfolded, unfolded, alike.session]
      dsimp only
      split
      · exact (stopped.deliver mine _).2
      · exact stopped

theorem relay (payload : Octets) :
    (first.relay payload).1 = (second.relay payload).1 ∧
      Alike own (first.relay payload).2 (second.relay payload).2 := by
  rw [Turn.relay, Turn.relay, alike.session]
  refine (alike.put _).deliver (fun viewer member => mine viewer ?_) _
  exact (List.filter_sublist.map _).mem member

end

theorem ended : Alike own first.ended second.ended := by
  have stopped := alike.stopLive
  rw [Turn.ended, Turn.ended]
  dsimp only
  rw [stopped.session]
  exact stopped.put _

theorem shutdown (outcome : Outcome) :
    Alike own (first.shutdown outcome) (second.shutdown outcome) := by
  have emptied : Alike own (first.withSubscribers []) (second.withSubscribers []) := by
    rw [withSubscribers, withSubscribers, alike.session]
    exact alike.put _
  cases token : second.session.token with
  | none =>
      rw [shutdown_settled (alike.session ▸ token), shutdown_settled token, alike.session]
      split
      · exact emptied.stopLive
      · exact emptied
  | some cancelled =>
      have pending : second.session.token.isSome := by rw [token]; rfl
      rw [shutdown_pending (alike.session ▸ pending), shutdown_pending pending]
      refine emptied.started (fun viewer member => ?_) outcome
      cases member

/-- An input does the same in both turns when the viewers of the session and the one that joins are
among those with the same queues. -/
theorem handle (mine : ∀ viewer, second.session.contains viewer = true → own viewer)
    (catchUp : List Octets) {input : Input}
    (joining : ∀ viewer, input = .subscribe viewer second.session.format → own viewer) :
    Alike own (first.handle catchUp input) (second.handle catchUp input) := by
  have members : ∀ viewer ∈ second.session.subscribers.map Subscriber.viewer, own viewer :=
    fun viewer member => mine viewer (Session.contains_iff.2 member)
  cases input with
  | subscribe viewer format =>
      rw [Turn.handle, Turn.handle, alike.session]
      split
      case isTrue here => exact alike.subscribe (joining viewer (by rw [here])) catchUp
      case isFalse => exact (alike.unsubscribe [viewer]).2
  | unsubscribe viewer => exact (alike.unsubscribe [viewer]).2
  | started format outcome =>
      rw [Turn.handle, Turn.handle, alike.session]
      split
      · exact alike.started members outcome
      · exact alike
  | event format event =>
      cases event with
      | data payload =>
          rw [Turn.handle, Turn.handle, alike.session]
          split
          · exact (alike.relay members payload).2
          · exact alike
      | ended reason =>
          rw [Turn.handle, Turn.handle, alike.session]
          split
          · exact alike.ended
          · exact alike
  | shutdown h264 jpeg =>
      rw [Turn.handle, Turn.handle, alike.session]
      exact alike.shutdown _
  | receive | close => exact alike

end Alike

end Turn

namespace Input

/-- Each viewer subscribes to no format but its own. -/
def staysHome (home : ViewerId → Format) : Input → Bool
  | .subscribe viewer format => home viewer = format
  | _ => true

/-- Only the commands, the outcomes and the events of the other format are not for a format. -/
def isFor (home : ViewerId → Format) (format : Format) : Input → Bool
  | .subscribe _ own | .started own _ | .event own _ => own = format
  | .unsubscribe viewer => home viewer = format
  | .shutdown .. | .receive .. | .close .. => true

end Input

namespace Turn

variable {home : ViewerId → Format} {turn : Turn} {input : Input}

/-- A session takes no part in what is not for it. -/
theorem handle_of_foreign
    (members : ∀ viewer, turn.session.contains viewer = true → home viewer = turn.session.format)
    (loyal : input.staysHome home = true) (foreign : input.isFor home turn.session.format = false)
    (catchUp : List Octets) : turn.handle catchUp input = turn := by
  have stranger {viewer : ViewerId} (elsewhere : home viewer ≠ turn.session.format) :
      (turn.unsubscribe [viewer]).2 = turn := by
    rw [unsubscribe_of_stranger (Bool.eq_false_iff.2 (mt (members viewer) elsewhere))]
  cases input with
  | subscribe viewer format =>
      have elsewhere : format ≠ turn.session.format := of_decide_eq_false foreign
      have own : home viewer = format := of_decide_eq_true loyal
      rw [handle, if_neg elsewhere, stranger (own ▸ elsewhere)]
  | unsubscribe viewer => exact stranger (of_decide_eq_false foreign)
  | started format outcome => exact if_neg fun own => of_decide_eq_false foreign own.1
  | event format event =>
      cases event <;> exact if_neg fun own => of_decide_eq_false foreign own.1
  | shutdown | receive | close => cases foreign

end Turn

namespace Scene

/-- The viewers of each session are at home there, and the store is empty without a stream. -/
structure Divided (home : ViewerId → Format) (scene : Scene) : Prop where
  coherent : scene.Coherent
  members : ∀ viewer format, (scene.station.session format).contains viewer = true →
    home viewer = format
  quiet : scene.station.isOpen = true → scene.isLive .h264 = false → scene.station.store = {}

namespace Divided

variable {home : ViewerId → Format} {scene : Scene} {input : Input}

theorem opened (serial : String) (mail : Mailboxes) : (opened serial mail).Divided home where
  coherent := .opened serial mail
  members _ format here := by cases format <;> cases here
  quiet _ _ := rfl

theorem step (divided : scene.Divided home) (loyal : input.staysHome home = true) :
    (scene.step input).1.Divided home where
  coherent := divided.coherent.step input
  members viewer format here := by
    cases isOpen : scene.station.isOpen with
    | false =>
        rw [(step_of_closed isOpen input).1] at here
        exact divided.members viewer format here
    | true =>
        rw [(step_shows divided.coherent.sorted isOpen input format).session] at here
        rcases Turn.contains_handle (divided.coherent.sessions format) _ input here
          with known | joined
        · exact divided.members viewer format known
        · rw [joined] at loyal
          exact (of_decide_eq_true loyal).trans (divided.coherent.sorted format)
  quiet stays silent := by
    cases isOpen : scene.station.isOpen with
    | false =>
        rw [(step_of_closed isOpen input).1, isOpen] at stays
        cases stays
    | true =>
        rw [step_of_open isOpen] at stays silent ⊢
        have follows := follows_of_isOpen divided.coherent (divided.quiet isOpen) input stays
        rwa [Follows, silent] at follows

/-- A session tells a viewer of the other one nothing. -/
theorem messagesTo_step (divided : scene.Divided home) (loyal : input.staysHome home = true)
    {viewer : ViewerId} {format : Format} (elsewhere : home viewer ≠ format) :
    messagesTo format viewer (scene.step input).2 = [] := by
  cases isOpen : scene.station.isOpen with
  | false =>
      rw [(step_of_closed isOpen input).2]
      rfl
  | true =>
      have shows := step_shows divided.coherent.sorted isOpen input format
      have before : (scene.turn format).session.contains viewer = false :=
        Bool.eq_false_iff.2 (mt (divided.members viewer format) elsewhere)
      have after := Bool.eq_false_iff.2 (mt ((divided.step loyal).members viewer format) elsewhere)
      rw [shows.session] at after
      have told := Turn.messagesTo_handle (divided.coherent.sessions format)
        (scene.catchUp format) input (after.trans before.symm)
      have own : (scene.turn format).session.format = format := divided.coherent.sorted format
      rw [own, before, ← shows.effects, messagesTo_effectsOf] at told
      exact told

/-- What the session of a viewer did says all about the queue of the viewer. -/
theorem queue (divided : scene.Divided home) (loyal : input.staysHome home = true)
    (viewer : ViewerId) :
    (scene.step input).1.mail.get viewer =
      (((scene.mail.get viewer).managed viewer input).offerAll
        (messagesTo (home viewer) viewer (effectsOf (home viewer) (scene.step input).2))).2 := by
  have silent := divided.messagesTo_step loyal (home viewer).other_ne.symm
  rw [messagesTo_effectsOf, ← fst_answersTo silent, queue_step]

end Divided

/-- These scenes are the same for the viewers of one format. -/
structure Twins (home : ViewerId → Format) (format : Format) (first second : Scene) : Prop where
  session : first.station.session format = second.station.session format
  isOpen : first.station.isOpen = second.station.isOpen
  store : format = .h264 → first.station.store = second.station.store
  queues : ∀ viewer, home viewer = format → first.mail.get viewer = second.mail.get viewer

namespace Twins

variable {home : ViewerId → Format} {format : Format} {first second : Scene}

theorem trans {third : Scene} (former : Twins home format first second)
    (latter : Twins home format second third) : Twins home format first third where
  session := former.session.trans latter.session
  isOpen := former.isOpen.trans latter.isOpen
  store recorded := (former.store recorded).trans (latter.store recorded)
  queues viewer own := (former.queues viewer own).trans (latter.queues viewer own)

theorem turn (twins : Twins home format first second) :
    Turn.Alike (home · = format) (first.turn format) (second.turn format) :=
  ⟨twins.session, rfl, twins.queues⟩

theorem catchUp (twins : Twins home format first second) :
    first.catchUp format = second.catchUp format := by
  cases format with
  | h264 => rw [Scene.catchUp, Scene.catchUp, twins.store rfl]
  | jpeg => rfl

theorem isLive (twins : Twins home format first second) :
    first.isLive format = second.isLive format := by
  rw [Scene.isLive, Scene.isLive, twins.session]

/-- The session does the same with an input in both scenes. -/
theorem shows (twins : Twins home format first second) (coherent : first.Coherent)
    (divided : second.Divided home) {input : Input} (loyal : input.staysHome home = true) :
    (first.step input).1.station.session format = (second.step input).1.station.session format ∧
      effectsOf format (first.step input).2 = effectsOf format (second.step input).2 := by
  cases isOpen : first.station.isOpen with
  | false =>
      have closed := twins.isOpen.symm.trans isOpen
      rw [(step_of_closed isOpen input).1, (step_of_closed isOpen input).2,
        (step_of_closed closed input).1, (step_of_closed closed input).2]
      exact ⟨twins.session, rfl⟩
  | true =>
      have one := step_shows coherent.sorted isOpen input format
      have two := step_shows divided.coherent.sorted (twins.isOpen.symm.trans isOpen) input format
      have joining : ∀ viewer, input = .subscribe viewer (second.turn format).session.format →
          home viewer = format := by
        rintro viewer rfl
        exact (of_decide_eq_true loyal).trans (divided.coherent.sorted format)
      have alike := twins.turn.handle (fun viewer => divided.members viewer format)
        (second.catchUp format) joining
      rw [twins.catchUp] at one
      rw [one.session, one.effects, two.session, two.effects]
      exact ⟨alike.session, alike.effects⟩

theorem isOpen_step (twins : Twins home format first second) (input : Input) :
    (first.step input).1.station.isOpen = (second.step input).1.station.isOpen := by
  have same := twins.isOpen
  cases isOpen : first.station.isOpen with
  | false =>
      have closed := same.symm.trans isOpen
      rw [(step_of_closed isOpen input).1, (step_of_closed closed input).1, same]
  | true =>
      have opens := same.symm.trans isOpen
      rw [step_of_open isOpen, step_of_open opens, handle_isOpen, handle_isOpen, same]

theorem store_step (twins : Twins home .h264 first second) (one : first.Divided home)
    (two : second.Divided home) {input : Input} (loyal : input.staysHome home = true) :
    (first.step input).1.station.store = (second.step input).1.station.store := by
  have same := twins.store rfl
  cases isOpen : first.station.isOpen with
  | false =>
      have closed := twins.isOpen.symm.trans isOpen
      rw [(step_of_closed isOpen input).1, (step_of_closed closed input).1, same]
  | true =>
      have opens := twins.isOpen.symm.trans isOpen
      have stays := twins.isOpen_step input
      have live : (first.step input).1.isLive .h264 = (second.step input).1.isLive .h264 := by
        rw [Scene.isLive, Scene.isLive, (twins.shows one.coherent two loyal).1]
      rw [step_of_open isOpen, step_of_open opens] at stays live ⊢
      cases after : (first.handle input).1.station.isOpen with
      | false =>
          -- A shutdown leaves the store as it is.
          obtain ⟨h264, jpeg, rfl⟩ := exists_shutdown_of_closed isOpen after
          exact same
      | true =>
          have former := follows_of_isOpen one.coherent (one.quiet isOpen) input after
          have latter := follows_of_isOpen two.coherent (two.quiet opens) input
            (stays.symm.trans after)
          have relayed : (first.record input).relayed? .h264 =
              (second.record input).relayed? .h264 := by
            have before : (first.record input).before.isLive .h264 =
                (second.record input).before.isLive .h264 := twins.isLive
            rw [Step.relayed?, Step.relayed?, before]
            rfl
          rw [former, latter, live, relayed, same]

/-- The same input leads to scenes that are the same again. -/
theorem step (twins : Twins home format first second) (one : first.Divided home)
    (two : second.Divided home) {input : Input} (loyal : input.staysHome home = true) :
    Twins home format (first.step input).1 (second.step input).1 where
  session := (twins.shows one.coherent two loyal).1
  isOpen := twins.isOpen_step input
  store := by
    rintro rfl
    exact twins.store_step one two loyal
  queues viewer own := by
    rw [one.queue loyal, two.queue loyal, own, twins.queues viewer own,
      (twins.shows one.coherent two loyal).2]

end Twins

namespace Divided

variable {home : ViewerId → Format} {format : Format} {scene : Scene} (divided : scene.Divided home)
  {input : Input} (loyal : input.staysHome home = true)
  (foreign : input.isFor home format = false)

include foreign

theorem isOpen_foreign : (scene.step input).1.station.isOpen = scene.station.isOpen := by
  cases isOpen : scene.station.isOpen with
  | false => rw [(step_of_closed isOpen input).1, isOpen]
  | true =>
      rw [step_of_open isOpen, handle_isOpen, isOpen]
      cases input with
      | shutdown => cases foreign
      | subscribe | unsubscribe | started | event | receive | close => rfl

include divided loyal

theorem shows_foreign :
    (scene.step input).1.station.session format = scene.station.session format ∧
      effectsOf format (scene.step input).2 = [] := by
  cases isOpen : scene.station.isOpen with
  | false =>
      rw [(step_of_closed isOpen input).1, (step_of_closed isOpen input).2]
      exact ⟨rfl, rfl⟩
  | true =>
      have own : (scene.turn format).session.format = format := divided.coherent.sorted format
      have shows := step_shows divided.coherent.sorted isOpen input format
      have members : ∀ viewer, (scene.turn format).session.contains viewer = true →
          home viewer = (scene.turn format).session.format :=
        fun viewer here => (divided.members viewer format here).trans own.symm
      have nothing := Turn.handle_of_foreign members loyal (by rwa [own]) (scene.catchUp format)
      rw [nothing] at shows
      exact ⟨shows.session, shows.effects⟩

theorem store_foreign (recorded : format = .h264) :
    (scene.step input).1.station.store = scene.station.store := by
  subst recorded
  have stays : (scene.step input).1.station.isOpen = scene.station.isOpen :=
    isOpen_foreign foreign
  have live : (scene.step input).1.isLive .h264 = scene.isLive .h264 := by
    rw [isLive, isLive, (divided.shows_foreign loyal foreign).1]
  cases isOpen : scene.station.isOpen with
  | false => rw [(step_of_closed isOpen input).1]
  | true =>
      have silent : input.payload? .h264 = none := by
        cases input with
        | event own event =>
            cases event with
            | data payload => exact if_neg (of_decide_eq_false foreign)
            | ended reason => rfl
        | subscribe | unsubscribe | started | shutdown | receive | close => rfl
      rw [isOpen, step_of_open isOpen] at stays
      rw [step_of_open isOpen] at live ⊢
      have follows := follows_of_isOpen divided.coherent (divided.quiet isOpen) input stays
      rw [follows, Step.relayed?_of_silent silent, live]
      cases now : scene.isLive .h264 with
      | false => exact (divided.quiet isOpen now).symm
      | true => rfl

/-- An input that is not for a format leads to a scene that is the same for its viewers. -/
theorem twins_foreign : Twins home format (scene.step input).1 scene where
  session := (divided.shows_foreign loyal foreign).1
  isOpen := isOpen_foreign foreign
  store := divided.store_foreign loyal foreign
  queues viewer own := by
    have managed : (scene.mail.get viewer).managed viewer input = scene.mail.get viewer := by
      cases input with
      | receive | close => cases foreign
      | subscribe | unsubscribe | started | event | shutdown => rfl
    rw [divided.queue loyal, own, (divided.shows_foreign loyal foreign).2, managed]
    rfl

end Divided

theorem Twins.run {home : ViewerId → Format} {format : Format} {first second : Scene}
    (twins : Twins home format first second) (one : first.Divided home)
    (two : second.Divided home) {inputs : List Input}
    (loyal : ∀ input ∈ inputs, input.staysHome home = true) :
    let whole := first.run inputs
    let part := second.run (inputs.filter (Input.isFor home format))
    Twins home format whole.1 part.1 ∧ effectsOf format whole.2 = effectsOf format part.2 := by
  -- Both scenes take an input for the format, and only the first one takes any other.
  induction inputs generalizing first second with
  | nil => exact ⟨twins, rfl⟩
  | cons input rest inductionHypothesis =>
      obtain ⟨stays, others⟩ := List.forall_mem_cons.1 loyal
      cases mine : input.isFor home format with
      | true =>
          obtain ⟨later, effects⟩ := inductionHypothesis (twins.step one two stays)
            (one.step stays) (two.step stays) others
          rw [List.filter_cons_of_pos mine, Scene.run, Scene.run]
          dsimp only
          rw [effectsOf_append, effectsOf_append, effects, (twins.shows one.coherent two stays).2]
          exact ⟨later, rfl⟩
      | false =>
          obtain ⟨later, effects⟩ := inductionHypothesis
            ((one.twins_foreign stays mine).trans twins) (one.step stays) two others
          rw [List.filter_cons_of_neg (Bool.eq_false_iff.1 mine), Scene.run]
          dsimp only
          rw [effectsOf_append, (one.shows_foreign stays mine).2, List.nil_append]
          exact ⟨later, effects⟩

/-- The sessions of a station are independent. In every run in which no viewer subscribes to both
formats, the commands, outcomes and events of the other format can be left out: at every moment,
the session of a format, what it did so far, the queues of its viewers and the store of the
recorder's stream are the same. -/
theorem sessions_independent (serial : String) (mail : Mailboxes) (home : ViewerId → Format)
    (inputs : List Input) (loyal : ∀ input ∈ inputs, input.staysHome home = true)
    (format : Format) :
    ∀ past, past <+: inputs →
      let whole := (opened serial mail).run past
      let part := (opened serial mail).run (past.filter (Input.isFor home format))
      whole.1.station.session format = part.1.station.session format ∧
        (format = .h264 → whole.1.station.store = part.1.station.store) ∧
        (∀ viewer, home viewer = format → whole.1.mail.get viewer = part.1.mail.get viewer) ∧
        effectsOf format whole.2 = effectsOf format part.2 := by
  intro past begins whole part
  have same : Twins home format (opened serial mail) (opened serial mail) :=
    ⟨rfl, rfl, fun _ => rfl, fun _ _ => rfl⟩
  obtain ⟨twins, effects⟩ := same.run (.opened serial mail) (.opened serial mail)
    fun input member => loyal input (begins.subset member)
  exact ⟨twins.session, twins.store, twins.queues, effects⟩

/-- Viewers of images come, go and are found closed beside a viewer of the recorder's stream, which
joins late. -/
theorem sessions_independent_images :
    let home : ViewerId → Format := fun viewer => if viewer = "viewer" then .h264 else .jpeg
    let mail : Mailboxes := ⟨[("viewer", .create 8), ("one", .create 1), ("two", .create 1)]⟩
    let inputs : List Input := [.subscribe "viewer" .h264, .subscribe "one" .jpeg,
      .started .h264 (.live (.h264 720 1280 "phone")), .started .jpeg (.live (.jpeg 360 640 {})),
      .event .h264 (.data [0, 0, 0, 1, 0x67, 1]), .close "one", .event .jpeg (.data [1]),
      .subscribe "two" .jpeg, .unsubscribe "two", .event .h264 (.data [2])]
    (((opened "device" mail).run inputs).1.station.session .jpeg).starts = 2 ∧
      ((opened "device" mail).run inputs).1.station.session .h264 =
        ((opened "device" mail).run
          (inputs.filter (Input.isFor home .h264))).1.station.session .h264 ∧
      ((opened "device" mail).run inputs).1.mail.get "viewer" =
        ((opened "device" mail).run
          (inputs.filter (Input.isFor home .h264))).1.mail.get "viewer" ∧
      effectsOf .h264 ((opened "device" mail).run inputs).2 =
        effectsOf .h264 ((opened "device" mail).run
          (inputs.filter (Input.isFor home .h264))).2 := by
  intro home mail inputs
  obtain ⟨session, -, queues, effects⟩ := sessions_independent "device" mail home inputs
    (by decide +kernel) .h264 inputs List.prefix_rfl
  exact ⟨by decide +kernel, session, queues "viewer" (by decide), effects⟩

end Scene

end Screencast.Broadcast
