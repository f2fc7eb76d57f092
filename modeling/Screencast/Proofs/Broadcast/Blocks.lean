/-
This file shows that the stream of a viewer consists of blocks, one for each stretch of a run in
which the viewer watches a running stream.
-/

import Mathlib.Data.List.Basic
import Screencast.Proofs.Broadcast.Telling

namespace Screencast.Broadcast

/-- A block begins with the description of the stream and what its viewer missed. -/
structure Block where
  info : Option StartInfo
  catchUp : List Octets
  payloads : List Octets
  deriving DecidableEq, Repr

def Block.messages (block : Block) : List Message :=
  block.info.toList.map .start ++ (block.catchUp ++ block.payloads).map .frame

namespace Scene

/-- A viewer watches the stream of a format while it is subscribed and the stream is running. -/
def watches (scene : Scene) (format : Format) (viewer : ViewerId) : Bool :=
  (scene.station.session format).watchedBy viewer

/-- A late viewer missed the units that the store holds. A stream of images has none. -/
def missed (scene : Scene) : Format → List Octets
  | .h264 =>
      let store := scene.station.store
      store.sps.toList ++ store.pps.toList ++ store.idr.toList
  | .jpeg => []

theorem catchUp_eq_missed (scene : Scene) (format : Format) :
    scene.catchUp format = scene.missed format := by
  cases format with
  | jpeg => rfl
  | h264 =>
      rw [catchUp, missed, KeyframeStore.snapshot]
      rcases scene.station.store with ⟨_ | _, _ | _, _ | _⟩ <;> rfl

end Scene

/-- A viewer begins to watch with this step. -/
def Step.joins (format : Format) (viewer : ViewerId) (step : Step) : Bool :=
  !step.before.watches format viewer && step.after.watches format viewer

/-- The stream that began last is described by the outcome that began it. -/
def infoSince (format : Format) (steps : List Step) : Option StartInfo :=
  (steps.filter (Step.goesLive format)).getLast?.bind fun step => step.input.description? format

/-- These are the payloads of a stream until its viewer leaves or it ends. -/
def relayedWhile (format : Format) (viewer : ViewerId) (steps : List Step) : List Octets :=
  (steps.takeWhile fun step => step.before.watches format viewer).filterMap
    (Step.relayed? format)

/-- There is one block for each stretch of steps in which a viewer watches. Only a stream that was
running before has something to catch up with. -/
def blocks (format : Format) (viewer : ViewerId) (past : List Step) : List Step → List Block
  | [] => []
  | step :: rest =>
      let others := blocks format viewer (past ++ [step]) rest
      if step.joins format viewer then
        { info := infoSince format (past ++ [step])
          catchUp := if step.before.isLive format then step.before.missed format else []
          payloads := relayedWhile format viewer rest } :: others
      else others

theorem infoSince_snoc (format : Format) (steps : List Step) (step : Step) :
    infoSince format (steps ++ [step]) =
      if step.goesLive format then step.input.description? format else infoSince format steps := by
  rw [infoSince, List.filter_append]
  cases began : step.goesLive format with
  | true => simp [began]
  | false => simp [began, infoSince]

namespace Scene

variable {scene : Scene} {format : Format} {past : List Step}

/-- A running stream has the description with which it began. -/
def Described (scene : Scene) (format : Format) (past : List Step) : Prop :=
  scene.isLive format = true → (scene.station.session format).info = infoSince format past

theorem Described.step (described : scene.Described format past) (coherent : scene.Coherent)
    (input : Input) : (scene.step input).1.Described format (past ++ [scene.record input]) := by
  intro live
  cases isOpen : scene.station.isOpen with
  | false =>
      have idle := coherent.closed isOpen format
      rw [isLive, (step_of_closed isOpen input).1, idle] at live
      cases live
  | true =>
      have own : (scene.turn format).session.format = format := coherent.sorted format
      have shows := handle_shows coherent.sorted input format
      have began : (scene.record input).goesLive format = !scene.isLive format := by
        rw [Step.goesLive, record, live, Bool.and_true]
      rw [infoSince_snoc, began]
      rw [step_of_open isOpen] at live ⊢
      rw [isLive, shows.session, decide_eq_true_eq] at live
      rw [shows.session, Turn.info_handle (coherent.sessions format) _ input live, own]
      cases running : scene.isLive format with
      | true =>
          have now : (scene.turn format).session.state = .live := of_decide_eq_true running
          rw [if_pos now]
          exact described running
      | false =>
          have silent : (scene.turn format).session.state ≠ .live := of_decide_eq_false running
          rw [if_neg silent]
          rfl

/-- A step tells a viewer what its input is about. -/
theorem streamedTo_record (coherent : scene.Coherent) (format : Format) (viewer : ViewerId)
    (input : Input) :
    streamedTo format viewer (scene.record input).effects =
      if scene.watches format viewer then
        ((scene.record input).relayed? format).toList.map .frame
      else if (scene.step input).1.watches format viewer then
        ((scene.step input).1.station.session format).info.toList.map .start ++
          (if scene.isLive format then scene.missed format else []).map .frame
      else [] := by
  cases isOpen : scene.station.isOpen with
  | false =>
      have quiet : scene.watches format viewer = false :=
        Session.watchedBy_of_ne (by simp [coherent.closed isOpen format]) viewer
      have stays : (scene.step input).1.watches format viewer = false := by
        rw [watches, (step_of_closed isOpen input).1]
        exact quiet
      rw [record, (step_of_closed isOpen input).2, quiet, stays]
      rfl
  | true =>
      have own : (scene.turn format).session.format = format := coherent.sorted format
      have shows := handle_shows coherent.sorted input format
      have session : (scene.turn format).session.Coherent := coherent.sessions format
      have tells := Turn.Tells.handle session (scene.catchUp format) viewer input
      rw [Turn.Tells, Turn.told, own, ← shows.effects, ← shows.session, streamedTo_effectsOf,
        ← step_of_open isOpen, catchUp_eq_missed] at tells
      refine tells.trans ?_
      cases watched : scene.watches format viewer with
      | true =>
          have live : scene.isLive format = true :=
            decide_eq_true (Session.watchedBy_iff.1 watched).2
          have now : (scene.turn format).session.watchedBy viewer = true := watched
          have relayed : (scene.record input).relayed? format = input.payload? format :=
            if_pos live
          rw [if_pos now, relayed]
          rfl
      | false =>
          have now : (scene.turn format).session.watchedBy viewer = false := watched
          have live : ((scene.turn format).session.state = .live) = (scene.isLive format = true) :=
            decide_eq_true_eq.symm
          simp only [now, live]
          rfl

/-- A viewer that does not watch yet is told nothing by the stream. -/
theorem relayedWhile_of_unwatched {viewer : ViewerId}
    (unwatched : scene.watches format viewer = false) (inputs : List Input) :
    relayedWhile format viewer (scene.steps inputs) = [] := by
  cases inputs with
  | nil => rfl
  | cons input rest => simp [relayedWhile, steps, record, unwatched]

theorem relayedWhile_of_watched {viewer : ViewerId} (watched : scene.watches format viewer = true)
    (input : Input) (rest : List Step) :
    relayedWhile format viewer (scene.record input :: rest) =
      ((scene.record input).relayed? format).toList ++ relayedWhile format viewer rest := by
  have before : (scene.record input).before.watches format viewer = true := watched
  rw [relayedWhile, List.takeWhile_cons, if_pos before, List.filterMap_cons]
  cases (scene.record input).relayed? format <;> rfl

/-- What a run tells a viewer is the rest of the stream that it watches at first, and then block
after block. -/
theorem streamedTo_steps (coherent : scene.Coherent) (described : scene.Described format past)
    (viewer : ViewerId) (inputs : List Input) :
    streamedTo format viewer ((scene.steps inputs).flatMap Step.effects) =
      (relayedWhile format viewer (scene.steps inputs)).map .frame ++
        (blocks format viewer past (scene.steps inputs)).flatMap Block.messages := by
  induction inputs generalizing scene past with
  | nil => rfl
  | cons input rest inductionHypothesis =>
      have next := described.step coherent input
      have others := inductionHypothesis (coherent.step input) next
      have joins : (scene.record input).joins format viewer =
          (!scene.watches format viewer && (scene.step input).1.watches format viewer) := rfl
      rw [steps, List.flatMap_cons, streamedTo_append, streamedTo_record coherent, others, blocks,
        joins]
      cases before : scene.watches format viewer with
      | true =>
          rw [relayedWhile_of_watched before]
          simp
      | false =>
          have silent : relayedWhile format viewer
              (scene.record input :: (scene.step input).1.steps rest) = [] :=
            relayedWhile_of_unwatched before (input :: rest)
          rw [silent]
          cases after : (scene.step input).1.watches format viewer with
          | true =>
              have live : (scene.step input).1.isLive format = true :=
                decide_eq_true (Session.watchedBy_iff.1 after).2
              simp only [next live, Block.messages, Bool.not_false, Bool.and_self, if_true,
                Bool.false_eq_true, if_false, List.map_nil, List.nil_append, List.flatMap_cons,
                List.map_append, List.append_assoc]
              rfl
          | false =>
              rw [relayedWhile_of_unwatched after]
              simp

/-- Every block begins with a description. -/
theorem info_of_blocks (coherent : scene.Coherent) (described : scene.Described format past)
    (viewer : ViewerId) (inputs : List Input) :
    ∀ block ∈ blocks format viewer past (scene.steps inputs), block.info.isSome := by
  induction inputs generalizing scene past with
  | nil => simp [steps, blocks]
  | cons input rest inductionHypothesis =>
      have next := described.step coherent input
      have sound := coherent.step input
      have others := inductionHypothesis sound next
      intro block member
      rw [steps, blocks] at member
      split at member
      case isFalse => exact others block member
      case isTrue joins =>
        rcases List.mem_cons.1 member with rfl | later
        · rw [Step.joins, Bool.and_eq_true] at joins
          have live : ((scene.step input).1.station.session format).state = .live :=
            (Session.watchedBy_iff.1 joins.2).2
          have info := next (decide_eq_true live)
          exact info ▸ (sound.sessions format).described.2 live
        · exact others block later

/-- Every step of a run begins in a coherent scene. -/
theorem record_of_mem_steps (coherent : scene.Coherent) {inputs : List Input} {step : Step}
    (member : step ∈ scene.steps inputs) :
    step.before.Coherent ∧ step = step.before.record step.input := by
  induction inputs generalizing scene with
  | nil => cases member
  | cons input rest inductionHypothesis =>
      rcases List.mem_cons.1 member with rfl | later
      · exact ⟨coherent, rfl⟩
      · exact inductionHypothesis (coherent.step input) later

theorem apply_turn (scene : Scene) (format : Format) :
    scene.apply format (scene.turn format) = scene := by
  cases format <;> rfl

/-- A viewer that leaves a format without being its viewer changes nothing. -/
theorem leave_of_stranger {viewer : ViewerId}
    (stranger : (scene.station.session format).contains viewer = false) :
    scene.leave format viewer = (scene, []) := by
  have nobody : (scene.turn format).unsubscribe [viewer] = (false, scene.turn format) :=
    Turn.unsubscribe_of_stranger stranger
  rw [leave, nobody]
  simp only [Bool.false_and, Bool.false_eq_true, if_false, apply_turn]
  rfl

/-- A viewer that was told the start of the stream may subscribe again without effect. -/
theorem step_of_announced (coherent : scene.Coherent) {viewer : ViewerId}
    (announced : { viewer, announced := true } ∈ (scene.station.session format).subscribers) :
    scene.step (.subscribe viewer format) = (scene, []) := by
  have session : (scene.turn format).session.Coherent := coherent.sessions format
  have live : (scene.station.session format).state = .live :=
    (session.announced _ announced).1 rfl
  have known : (scene.station.session format).contains viewer = true :=
    Session.contains_iff.2 (List.mem_map_of_mem announced)
  have stays : (scene.turn format).subscribe viewer (scene.catchUp format) =
      scene.turn format := by
    have joined := session.subscribe_joined viewer (scene.catchUp format)
    generalize (scene.turn format).subscribe viewer (scene.catchUp format) = last at joined
    cases joined with
    | starts idle => cases idle.symm.trans live
    | waits starting => cases starting.symm.trans live
    | stays => rfl
    | told _ stranger => cases stranger.symm.trans known
  cases isOpen : scene.station.isOpen with
  | false => cases (coherent.closed isOpen format).symm.trans live
  | true =>
      rw [step_of_open isOpen, handle, leave_of_stranger (coherent.exclusive viewer format known)]
      simp only [join, act, stays, apply_turn]
      rfl

end Scene

end Screencast.Broadcast
