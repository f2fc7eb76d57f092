/-
This file shows that the store holds the latest units of the running stream and no others.
-/

import Mathlib.Data.List.DropRight
import Screencast.Proofs.Broadcast.Stations

namespace Screencast.Broadcast

namespace KeyframeStore

/-- This is the data of the last unit of a type. -/
def latest? (type : UInt8) (units : List Nal) : Option Octets :=
  (units.filter fun unit => unit.type = type).getLast?.map Nal.data

theorem latest?_snoc (type : UInt8) (units : List Nal) (unit : Nal) :
    latest? type (units ++ [unit]) =
      if unit.type = type then some unit.data else latest? type units := by
  by_cases same : unit.type = type <;> simp [latest?, same]

theorem exists_of_latest? {type : UInt8} {units : List Nal} {data : Octets}
    (found : latest? type units = some data) : ∃ unit ∈ units, unit.data = data := by
  obtain ⟨unit, last, rfl⟩ := Option.map_eq_some_iff.1 found
  exact ⟨unit, (List.mem_filter.1 (List.mem_of_getLast? last)).1, rfl⟩

/-- This store holds the last unit of each of the three types. -/
def ofUnits (units : List Nal) : KeyframeStore where
  sps := latest? 7 units
  pps := latest? 8 units
  idr := latest? 5 units

theorem observeUnit_ofUnits (units : List Nal) (unit : Nal) :
    (ofUnits units).observeUnit unit = ofUnits (units ++ [unit]) := by
  simp only [observeUnit, ofUnits, latest?_snoc, Nal.isSps, Nal.isPps, Nal.isKeyframe,
    decide_eq_true_eq]
  by_cases sps : unit.type = 7
  · simp [sps]
  by_cases pps : unit.type = 8
  · simp [pps]
  by_cases idr : unit.type = 5
  · simp [idr]
  · simp [sps, pps, idr]

theorem observe_ofUnits (units : List Nal) (payload : Octets) :
    (ofUnits units).observe payload = ofUnits (units ++ Nal.split payload) := by
  rw [observe]
  induction Nal.split payload generalizing units with
  | nil => simp
  | cons unit rest inductionHypothesis =>
      rw [List.foldl_cons, observeUnit_ofUnits, inductionHypothesis, List.append_assoc]
      rfl

/-- This store has observed the units of some payloads. -/
def ofPayloads (payloads : List Octets) : KeyframeStore := ofUnits (payloads.flatMap Nal.split)

theorem observe_ofPayloads (payloads : List Octets) (payload : Octets) :
    (ofPayloads payloads).observe payload = ofPayloads (payloads ++ [payload]) := by
  rw [ofPayloads, ofPayloads, observe_ofUnits, List.flatMap_append, List.flatMap_singleton]

/-- A late viewer gets units of the payloads only. -/
theorem mem_snapshot_ofPayloads {payloads : List Octets} {data : Octets}
    (member : data ∈ (ofPayloads payloads).snapshot) :
    ∃ payload ∈ payloads, ∃ unit ∈ Nal.split payload, unit.data = data := by
  have found : ∃ type, latest? type (payloads.flatMap Nal.split) = some data := by
    simp only [snapshot, ofPayloads, ofUnits, List.mem_filterMap, List.mem_cons,
      List.not_mem_nil, or_false, id] at member
    obtain ⟨slot, sps | pps | idr, held⟩ := member
    · exact ⟨7, sps ▸ held⟩
    · exact ⟨8, pps ▸ held⟩
    · exact ⟨5, idr ▸ held⟩
  obtain ⟨type, found⟩ := found
  obtain ⟨unit, member, same⟩ := exists_of_latest? found
  obtain ⟨payload, known, inside⟩ := List.mem_flatMap.1 member
  exact ⟨payload, known, unit, inside, same⟩

end KeyframeStore

namespace Scene

theorem leave_store (scene : Scene) (own : Format) (viewer : ViewerId) :
    (scene.leave own viewer).1.station.store =
      if ((scene.turn own).unsubscribe [viewer]).1 && own = .h264 then {}
      else scene.station.store := by
  unfold leave
  dsimp only
  split
  · rfl
  · cases own <;> rfl

theorem join_store (scene : Scene) (own : Format) (viewer : ViewerId) :
    (scene.join own viewer).1.station.store = scene.station.store := by
  cases own <;> rfl

theorem relay_store (scene : Scene) (payload : Octets) :
    (scene.relay .h264 payload).1.station.store =
      if ((scene.turn .h264).relay payload).1 then {} else scene.station.store.observe payload := by
  unfold relay
  dsimp only
  simp only [decide_true, Bool.and_true]
  split
  case isTrue stopped => rw [if_pos (by exact stopped)]; rfl
  case isFalse running => rw [if_neg (by exact running)]; rfl

theorem event_jpeg_store (scene : Scene) (event : SourceEvent) :
    (scene.handle (.event .jpeg event)).1.station.store = scene.station.store := by
  cases heard : (scene.station.session .jpeg).listening with
  | false => rw [handle_event_unheard heard]
  | true =>
      cases event with
      | data payload =>
          rw [handle_data heard]
          simp only [relay, reduceCtorEq, decide_false, Bool.and_false, Bool.false_eq_true,
            if_false]
          rfl
      | ended reason =>
          rw [handle_ended heard]
          rfl

/-- The store observes what an input brings to the stream and is empty without a stream. -/
def Follows (scene : Scene) (input : Input) : Prop :=
  (scene.handle input).1.station.store =
    if (scene.handle input).1.isLive .h264 then
      ((scene.record input).relayed? .h264).elim scene.station.store scene.station.store.observe
    else {}

namespace Follows

section

variable {scene : Scene} (coherent : scene.Coherent)
  (empty : scene.isLive .h264 = false → scene.station.store = {})

include empty in
/-- An input that relays nothing leaves the store as it is unless it stops the stream. -/
theorem quiet {input : Input} (stopped : Bool) (silent : input.payload? .h264 = none)
    (store : (scene.handle input).1.station.store =
      if stopped then {} else scene.station.store)
    (live : (scene.handle input).1.isLive .h264 = (scene.isLive .h264 && !stopped)) :
    scene.Follows input := by
  rw [Follows, store, live, Step.relayed?_of_silent silent]
  cases now : scene.isLive .h264 with
  | true => cases stopped <;> rfl
  | false => cases stopped <;> simp [empty now]

include coherent empty

theorem subscribe (viewer : ViewerId) (chosen : Format) :
    scene.Follows (.subscribe viewer chosen) := by
  have live := isLive_handle coherent (.subscribe viewer chosen) .h264
  have own : (scene.turn .h264).session.format = .h264 := coherent.sorted .h264
  have store : (scene.handle (.subscribe viewer chosen)).1.station.store =
      if ((scene.turn chosen.other).unsubscribe [viewer]).1 && chosen.other = .h264 then {}
      else scene.station.store :=
    (join_store (scene.leave chosen.other viewer).1 chosen viewer).trans
      (leave_store scene chosen.other viewer)
  rw [Turn.handle, own] at live
  cases chosen with
  | h264 =>
      rw [if_pos rfl] at live
      refine quiet empty false rfl (by simpa [Format.other] using store) (live.trans ?_)
      rw [Bool.not_false, Bool.and_true]
      exact decide_eq_decide.2 ((coherent.sessions .h264).subscribe_live viewer _)
  | jpeg =>
      rw [if_neg (by decide), Turn.unsubscribe_live] at live
      exact quiet empty _ rfl (by simpa [Format.other] using store) live

theorem unsubscribe (viewer : ViewerId) : scene.Follows (.unsubscribe viewer) := by
  have live := isLive_handle coherent (.unsubscribe viewer) .h264
  have store : (scene.handle (.unsubscribe viewer)).1.station.store =
      if ((scene.turn .h264).unsubscribe [viewer]).1 then {} else scene.station.store := by
    refine (leave_store (scene.leave .h264 viewer).1 .jpeg viewer).trans ?_
    rw [leave_store]
    simp
  rw [Turn.handle, Turn.unsubscribe_live] at live
  exact quiet empty _ rfl store live

theorem started (chosen : Format) (outcome : Outcome) :
    scene.Follows (.started chosen outcome) := by
  cases place : (scene.station.session chosen).sourceHome with
  | true =>
      have stays := handle_started_home place outcome
      exact quiet empty false rfl (by rw [stays]; rfl) (by rw [stays]; simp)
  | false =>
      have starts := handle_started_away place outcome
      cases chosen with
      | h264 =>
          -- The session was not live before, so the store was empty and is cleared again.
          have idle : scene.isLive .h264 = false := by
            simp [isLive, (coherent.sessions .h264).away.1 place]
          rw [Follows, Step.relayed?_of_silent rfl, empty idle, starts]
          exact (ite_self _).symm
      | jpeg =>
          refine quiet empty false rfl (by rw [starts]; rfl) ?_
          rw [starts, Bool.not_false, Bool.and_true]
          rfl

theorem event (chosen : Format) (event : SourceEvent) : scene.Follows (.event chosen event) := by
  have live := isLive_handle coherent (.event chosen event) .h264
  have own : (scene.turn .h264).session.format = .h264 := coherent.sorted .h264
  have heard : scene.isLive .h264 = (scene.station.session .h264).listening :=
    Bool.eq_iff_iff.2 (decide_eq_true_iff.trans (coherent.sessions .h264).listening.symm)
  cases chosen with
  | h264 =>
      cases listening : (scene.station.session .h264).listening with
      | false =>
          rw [listening] at heard
          rw [Follows, handle_event_unheard listening, Step.relayed?_of_quiet heard, empty heard]
          exact (ite_self _).symm
      | true =>
          rw [listening] at heard
          cases event with
          | data payload =>
              have turned : (scene.turn .h264).handle (scene.catchUp .h264)
                  (.event .h264 (.data payload)) = ((scene.turn .h264).relay payload).2 :=
                if_pos ⟨own.symm, listening⟩
              have relayed : (scene.record (.event .h264 (.data payload))).relayed? .h264 =
                  some payload := if_pos heard
              have running : decide ((scene.turn .h264).session.state = .live) = true := heard
              rw [turned, Turn.relay_live, running] at live
              rw [Follows, live, relayed, handle_data listening, relay_store]
              cases ((scene.turn .h264).relay payload).1 <;> rfl
          | ended reason =>
              have turned : (scene.turn .h264).handle (scene.catchUp .h264)
                  (.event .h264 (.ended reason)) = (scene.turn .h264).ended :=
                if_pos ⟨own.symm, listening⟩
              rw [turned, Turn.ended_state] at live
              rw [Follows, live, handle_ended listening]
              rfl
  | jpeg =>
      have turned : (scene.turn .h264).handle (scene.catchUp .h264) (.event .jpeg event) =
          scene.turn .h264 := by
        cases event <;> exact if_neg fun heard => absurd (heard.1.trans own) (by decide)
      rw [turned] at live
      refine quiet empty false (by cases event <;> rfl) (event_jpeg_store scene event) ?_
      rw [live, Bool.not_false, Bool.and_true]
      rfl

end

end Follows

/-- The store follows the stream until the station is shut down. -/
theorem follows_of_isOpen {scene : Scene} (coherent : scene.Coherent)
    (empty : scene.isLive .h264 = false → scene.station.store = {}) (input : Input)
    (isOpen : (scene.handle input).1.station.isOpen = true) : scene.Follows input := by
  cases input with
  | subscribe viewer chosen => exact .subscribe coherent empty viewer chosen
  | unsubscribe viewer => exact .unsubscribe coherent empty viewer
  | started chosen outcome => exact .started coherent empty chosen outcome
  | event chosen event => exact .event coherent empty chosen event
  | shutdown h264 jpeg => exact absurd isOpen Bool.false_ne_true
  | receive | close => exact .quiet empty false rfl rfl (Bool.and_true _).symm

end Scene

/-- This is what the stream of a format has relayed since it began last. -/
def relayedSince (format : Format) (steps : List Step) : List Octets :=
  (steps.rtakeWhile fun step => !step.goesLive format).filterMap (Step.relayed? format)

theorem relayedSince_snoc (format : Format) (steps : List Step) (step : Step) :
    relayedSince format (steps ++ [step]) =
      if step.goesLive format then []
      else relayedSince format steps ++ (step.relayed? format).toList := by
  rw [relayedSince, List.rtakeWhile_concat]
  cases step.goesLive format with
  | true => rfl
  | false =>
      rw [if_pos (by rfl), if_neg Bool.false_ne_true, List.filterMap_append, relayedSince]
      cases relayed : step.relayed? format <;> simp [relayed]

namespace Scene

/-- The store of an open station has observed what the running stream relayed. -/
def Current (scene : Scene) (past : List Step) : Prop :=
  scene.station.isOpen = true → scene.station.store =
    if scene.isLive .h264 then KeyframeStore.ofPayloads (relayedSince .h264 past) else {}

theorem Current.step {scene : Scene} {past : List Step} (current : scene.Current past)
    (coherent : scene.Coherent) (input : Input) :
    (scene.step input).1.Current (past ++ [scene.record input]) := by
  intro stays
  cases isOpen : scene.station.isOpen with
  | false =>
      rw [(step_of_closed isOpen input).1, isOpen] at stays
      cases stays
  | true =>
      have held := current isOpen
      have empty : scene.isLive .h264 = false → scene.station.store = {} := fun quiet => by
        rw [held, quiet]
        rfl
      have same : scene.step input = scene.handle input := step_of_open isOpen input
      rw [same] at stays ⊢
      rw [follows_of_isOpen coherent empty input stays, relayedSince_snoc]
      have began : (scene.record input).goesLive .h264 =
          (!scene.isLive .h264 && (scene.handle input).1.isLive .h264) := by
        rw [← same]
        rfl
      rw [began]
      cases after : (scene.handle input).1.isLive .h264 with
      | false => rfl
      | true =>
          cases before : scene.isLive .h264 with
          | false =>
              rw [Step.relayed?_of_quiet before, empty before]
              rfl
          | true =>
              rw [held, before]
              cases (scene.record input).relayed? .h264 with
              | none => simp
              | some payload => simpa using KeyframeStore.observe_ofPayloads _ payload

/-- In every run, the store of an open station holds the last units that the running stream relayed
since it began, and nothing while no stream is running. A late viewer gets units of that stream
only. Nobody can join after a shutdown, so what a closed station keeps does not matter. -/
theorem store_current (serial : String) (mail : Mailboxes) (inputs : List Input) :
    let first := opened serial mail
    let scene := (first.run inputs).1
    let payloads := relayedSince .h264 (first.steps inputs)
    scene.station.isOpen = true →
      scene.station.store =
          (if scene.isLive .h264 then KeyframeStore.ofPayloads payloads else {}) ∧
        ∀ data ∈ scene.catchUp .h264,
          ∃ payload ∈ payloads, ∃ unit ∈ Nal.split payload, unit.data = data := by
  intro first scene payloads isOpen
  have start : first.Coherent ∧ first.Current [] := ⟨Coherent.opened serial mail, fun _ => rfl⟩
  have current : scene.Current (first.steps inputs) :=
    (run_induction (fun scene past => scene.Coherent ∧ scene.Current past)
      (fun _ _ input held => ⟨held.1.step input, held.2.step held.1 input⟩) [] start inputs).2
  have store := current isOpen
  refine ⟨store, fun data member => ?_⟩
  rw [catchUp, store] at member
  cases live : scene.isLive .h264 with
  | false =>
      rw [live] at member
      cases member
  | true =>
      rw [live, if_pos rfl] at member
      exact KeyframeStore.mem_snapshot_ofPayloads member

/-- The parameter set of the second payload replaces that of the first one. -/
theorem store_current_replaced :
    ((opened "device" ⟨[("viewer", .create 8)]⟩).run
      [.subscribe "viewer" .h264, .started .h264 (.live (.h264 720 1280 "phone")),
        .event .h264 (.data [0, 0, 0, 1, 0x67, 1]),
        .event .h264 (.data [0, 0, 1, 0x65, 2, 0, 0, 1, 0x67, 3])]).1.station.store =
      { sps := some [0, 0, 1, 0x67, 3], idr := some [0, 0, 1, 0x65, 2] } :=
  (store_current "device" ⟨[("viewer", .create 8)]⟩ _ (by decide +kernel)).1.trans
    (by decide +kernel)

end Scene

end Screencast.Broadcast
