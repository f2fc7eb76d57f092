/-
This file shows that an adapter starts over after its teardown. Of all that it went through, only
the size that was set last remains.
-/

import Screencast.Proofs.Decoder.Pushing

namespace Screencast.Decoder

namespace Strategy

/-- The rates of a strategy never change, and a teardown keeps nothing else. -/
theorem teardown_configure (strategy : Strategy) (configuration : Configuration) :
    (strategy.configure configuration).2.teardown = strategy.teardown := by
  cases strategy <;> rfl

theorem teardown_feed (strategy : Strategy) (units : List Nal) :
    (strategy.feed units).2.teardown = strategy.teardown := by
  cases strategy with
  | hardware state =>
      simp only [feed, Hardware.feed]
      split
      case isTrue => rfl
      case isFalse => split <;> rfl
  | buffered state =>
      simp only [feed, Buffered.feed]
      split
      case h_1 => rfl
      case h_2 => split <;> rfl
  | raw => rfl

theorem teardown_teardown (strategy : Strategy) :
    strategy.teardown.teardown = strategy.teardown := by
  cases strategy <;> rfl

/-- A strategy that was not used has nothing to drop. -/
theorem teardown_create (kind : StrategyKind) (fps timescale : UInt32) :
    (create kind fps timescale).teardown = create kind fps timescale := by
  cases kind <;> rfl

end Strategy

namespace Adapter

variable {adapter : Adapter}

theorem teardown_observe (adapter : Adapter) {unit : Nal} (set : unit.isParameterSet = true) :
    (adapter.observe unit).2.teardown = adapter.teardown := by
  have observed := adapter.observe_observed set
  generalize adapter.observe unit = outcome at observed ⊢
  cases observed with
  | configured makes unused => simp [teardown, Tracker.reset, Strategy.teardown_configure]
  | kept used => simp [teardown, Tracker.reset]

theorem teardown_pushVideo (adapter : Adapter) (payload : Octets) :
    (adapter.pushVideo payload).2.teardown = adapter.teardown := by
  have kept : (adapter.observePayload payload).2.teardown = adapter.teardown := by
    apply observePayload_keeps (fun later => later.teardown = adapter.teardown) _ rfl
    intro later unit set same
    exact (later.teardown_observe set).trans same
  rw [pushVideo, ← observePayload]
  dsimp only
  split
  case isTrue waiting => exact kept
  case isFalse fed =>
    rw [← kept, teardown, teardown]
    dsimp only
    rw [Strategy.teardown_feed]

theorem teardown_push (adapter : Adapter) (payload : Octets) :
    (adapter.push payload).2.teardown = adapter.teardown := by
  have took := adapter.push_took payload
  generalize adapter.push payload = outcome at took ⊢
  cases took with
  | nothing empty => rfl
  | refused unknown fault => rfl
  | image still => rfl
  | video moving => exact teardown_pushVideo _ payload

/-- The call sets this size. -/
def Call.size? : Call → Option (UInt32 × UInt32)
  | .setGeometry width height => some (width, height)
  | _ => none

/-- This is the size that was set last. -/
def lastSize? (calls : List Call) : Option (UInt32 × UInt32) :=
  (calls.filterMap Call.size?).getLast?

theorem lastSize?_cons (call : Call) (calls : List Call) :
    lastSize? (call :: calls) = (lastSize? calls).or call.size? := by
  rw [lastSize?, lastSize?, List.filterMap_cons]
  cases call.size? with
  | none => exact (Option.or_none).symm
  | some size =>
      dsimp only
      rw [List.getLast?_cons]
      cases (calls.filterMap Call.size?).getLast? <;> rfl

/-- The adapter is told the size, if there is one. -/
def sized (adapter : Adapter) : Option (UInt32 × UInt32) → Adapter
  | some (width, height) => adapter.setGeometry width height
  | none => adapter

/-- A later size replaces an earlier one. -/
theorem sized_sized (adapter : Adapter) (first second : Option (UInt32 × UInt32)) :
    (adapter.sized first).sized second = adapter.sized (second.or first) := by
  cases second with
  | none => rfl
  | some size => cases first <;> rfl

/-- A call changes what a teardown leaves only by the size that it sets. -/
theorem teardown_call (adapter : Adapter) (call : Call) :
    (adapter.call call).2.teardown = adapter.teardown.sized call.size? := by
  cases call with
  | push payload => exact adapter.teardown_push payload
  | setGeometry width height => rfl
  | teardown => simp [Adapter.call, teardown, Tracker.reset, Strategy.teardown_teardown, Call.size?,
      sized]

theorem teardown_run (adapter : Adapter) (calls : List Call) :
    (adapter.run calls).teardown = adapter.teardown.sized (lastSize? calls) := by
  induction calls generalizing adapter with
  | nil => rfl
  | cons call rest inductionHypothesis =>
      calc ((adapter.call call).2.run rest).teardown
          = (adapter.call call).2.teardown.sized (lastSize? rest) := inductionHypothesis _
        _ = (adapter.teardown.sized call.size?).sized (lastSize? rest) := by rw [teardown_call]
        _ = adapter.teardown.sized (lastSize? (call :: rest)) := by
          rw [sized_sized, lastSize?_cons]

/-- The calls give this, one by one. -/
def results (adapter : Adapter) : List Call → List (Except MediaFault (List DecoderInput))
  | [] => []
  | call :: rest => (adapter.call call).1 :: (adapter.call call).2.results rest

/-- After a teardown an adapter is a new one, which was told the size that was set last. So it does
with all later calls what the new one does. -/
theorem teardown_renews {capabilities : Capabilities} {settings : Settings} {fresh : Adapter}
    (created : create capabilities settings = .ok fresh) (calls : List Call) :
    let renewed := fresh.sized (lastSize? calls)
    (fresh.run calls).teardown = renewed ∧
      ∀ later, (fresh.run calls).teardown.results later = renewed.results later := by
  intro renewed
  have unused : fresh.teardown = fresh := by
    obtain ⟨kind, -, rfl⟩ := exists_of_create created
    rw [teardown, Strategy.teardown_create]
    rfl
  have same : (fresh.run calls).teardown = renewed := by
    rw [teardown_run, unused]
  exact ⟨same, fun later => by rw [same]⟩

/-- The last size outlives two teardowns, and the times begin at zero behind them. -/
theorem teardown_renews_sized :
    let sets : Octets := [0, 0, 1, 0x67, 0x42, 0xC0, 0x1F, 0xEC, 0, 0, 1, 0x68, 0xCE]
    let idr : Octets := [0, 0, 1, 0x65, 0x88]
    let calls : List Call := [.setGeometry 640 480, .setGeometry 720 1280, .push (sets ++ idr),
      .push idr, .teardown, .push [0xFF, 0xD8]]
    ∃ fresh, create .all {} = .ok fresh ∧
      (fresh.run calls).teardown = fresh.setGeometry 720 1280 ∧
      (fresh.run calls).teardown.results [.push (sets ++ idr), .push idr] =
        [.ok [.configure "avc1.42c01f" 720 1280
            ([1, 0x42, 0xC0, 0x1F, 0xFF, 0xE1, 0, 5, 0x67, 0x42, 0xC0, 0x1F, 0xEC] ++
              [1, 0, 2, 0x68, 0xCE]),
            .chunk [0, 0, 0, 2, 0x65, 0x88] 0 true],
          .ok [.chunk [0, 0, 0, 2, 0x65, 0x88] 16666 true]] := by
  intro sets idr calls
  have created : create .all {} = .ok { strategy := .create .hardware 60 90000 } := rfl
  obtain ⟨same, results⟩ := teardown_renews created calls
  refine ⟨_, created, same, ?_⟩
  rw [results]
  decide +kernel

end Adapter

end Screencast.Decoder
