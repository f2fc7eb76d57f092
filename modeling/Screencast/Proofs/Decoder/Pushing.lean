/-
This file shows that an adapter refuses a payload only while it does not know its stream. Once a
payload showed the kind, every later one is accepted, whatever its parameter sets are.
-/

import Screencast.Proofs.Decoder.Viewing

namespace Screencast.Decoder

namespace Strategy

variable {strategy : Strategy}

theorem image_notMem_configure (strategy : Strategy) (configuration : Configuration)
    (octets : Octets) : .image octets ∉ (strategy.configure configuration).1 := by
  cases strategy with
  | hardware state => simp [configure, Hardware.configure]
  | buffered state => simp [configure, Buffered.configure]
  | raw => simp [configure]

theorem image_notMem_feed {units : List Nal} {inputs : List DecoderInput} {next : Strategy}
    (fed : strategy.feed units = (.ok inputs, next)) (octets : Octets) :
    .image octets ∉ inputs := by
  cases strategy with
  | hardware state =>
      simp only [feed, Hardware.feed] at fed
      split at fed
      case isTrue => cases fed
      case isFalse => split at fed <;> cases fed <;> simp
  | buffered state =>
      simp only [feed, Buffered.feed] at fed
      split at fed
      case h_1 => cases fed
      case h_2 => split at fed <;> cases fed <;> simp
  | raw =>
      rw [feed] at fed
      cases fed
      split <;> simp

/-- A strategy that needs no configuration can be fed at once. -/
theorem isReady_of_needsConfiguration (free : strategy.kind.needsConfiguration = false) :
    strategy.isReady = true := by
  cases strategy with
  | hardware state => cases free
  | buffered state => cases free
  | raw => rfl

end Strategy

namespace Adapter

variable {adapter : Adapter} {payload : Octets}

theorem observe_kind (adapter : Adapter) {unit : Nal} (set : unit.isParameterSet = true) :
    (adapter.observe unit).2.kind = adapter.kind := by
  have observed := adapter.observe_observed set
  generalize adapter.observe unit = outcome at observed ⊢
  cases observed with
  | configured makes unused => rfl
  | kept used => rfl

theorem image_notMem_observe (adapter : Adapter) {unit : Nal} (set : unit.isParameterSet = true)
    (octets : Octets) : .image octets ∉ (adapter.observe unit).1 := by
  have observed := adapter.observe_observed set
  generalize adapter.observe unit = outcome at observed ⊢
  cases observed with
  | configured makes unused => exact Strategy.image_notMem_configure adapter.strategy _ octets
  | kept used => exact List.not_mem_nil

theorem image_notMem_observeAll {sets : List Nal}
    (all : ∀ unit ∈ sets, unit.isParameterSet = true) (adapter : Adapter) (octets : Octets) :
    .image octets ∉ (adapter.observeAll sets).1 := by
  induction sets generalizing adapter with
  | nil => exact List.not_mem_nil
  | cons unit rest inductionHypothesis =>
      rw [List.forall_mem_cons] at all
      rw [observeAll, List.mem_append]
      rintro (member | member)
      · exact adapter.image_notMem_observe all.1 octets member
      · exact inductionHypothesis all.2 _ member

/-- A group of units is accepted, and none of what it leads to is an image. -/
theorem Ready.exists_pushVideo (ready : adapter.Ready) (payload : Octets) :
    ∃ inputs next, adapter.pushVideo payload = (.ok inputs, next) ∧ next.Ready ∧
      next.kind = adapter.kind ∧ ∀ octets, .image octets ∉ inputs := by
  have kept : (adapter.observePayload payload).2.Ready ∧
      (adapter.observePayload payload).2.kind = adapter.kind := by
    apply observePayload_keeps (fun later => later.Ready ∧ later.kind = adapter.kind) _ ⟨ready, rfl⟩
    rintro later unit set ⟨ready, same⟩
    exact ⟨ready.observe set, (later.observe_kind set).trans same⟩
  have noImage (octets : Octets) : .image octets ∉ (adapter.observePayload payload).1 :=
    image_notMem_observeAll (fun _ member => (List.mem_filter.1 member).2) adapter octets
  rw [pushVideo, ← observePayload]
  dsimp only
  split
  case isTrue waiting => exact ⟨_, _, rfl, kept.1, kept.2, noImage⟩
  case isFalse fed =>
    have able : (adapter.observePayload payload).2.strategy.isReady = true := by
      cases needs : (adapter.observePayload payload).2.strategy.kind.needsConfiguration with
      | false => exact Strategy.isReady_of_needsConfiguration needs
      | true =>
          rw [needs, Bool.true_and, Option.isNone_iff_eq_none] at fed
          exact kept.1 (Option.isSome_iff_ne_none.2 fed)
    obtain ⟨inputs, next, fed, ready, -⟩ := Strategy.feed_ready able (Nal.split payload)
    rw [fed]
    refine ⟨_, _, rfl, fun _ => ready, kept.2, fun octets member => ?_⟩
    rcases List.mem_append.1 member with member | member
    · exact noImage octets member
    · exact Strategy.image_notMem_feed fed octets member

/-- A ready adapter accepts every payload of a known stream, and video gives no image. -/
theorem Ready.exists_push {kind : StreamKind} (ready : adapter.Ready) (filled : payload ≠ [])
    (known : adapter.kindWith? payload = some kind) :
    ∃ inputs next, adapter.push payload = (.ok inputs, next) ∧ next.Ready ∧
      next.kind = some kind ∧ (kind = .h264 → ∀ octets, .image octets ∉ inputs) := by
  rw [push_known filled known]
  cases kind with
  | jpeg => exact ⟨_, _, rfl, ready, rfl, fun same => by cases same⟩
  | h264 =>
      let watching : Adapter := { adapter with kind := some .h264 }
      have ready : watching.Ready := ready
      obtain ⟨inputs, next, pushed, ready, kind, noImage⟩ := ready.exists_pushVideo payload
      exact ⟨inputs, next, pushed, ready, kind, fun _ => noImage⟩

/-- A ready adapter refuses nothing but a first payload of no known kind. -/
theorem Ready.unknown_of_error {fault : MediaFault} (ready : adapter.Ready)
    (failed : (adapter.push payload).1 = .error fault) :
    payload ≠ [] ∧ adapter.kindWith? payload = none := by
  have filled : payload ≠ [] := by
    rintro rfl
    cases failed
  refine ⟨filled, ?_⟩
  cases judged : adapter.kindWith? payload with
  | none => rfl
  | some kind =>
      obtain ⟨inputs, next, pushed, -⟩ := ready.exists_push filled judged
      rw [pushed] at failed
      cases failed

/-- Only a push gives something. -/
def call (adapter : Adapter) : Call → Except MediaFault (List DecoderInput) × Adapter
  | .push payload => adapter.push payload
  | .setGeometry width height => (.ok [], adapter.setGeometry width height)
  | .teardown => (.ok [], adapter.teardown)

def run (adapter : Adapter) (calls : List Call) : Adapter :=
  calls.foldl (fun adapter call => (adapter.call call).2) adapter

theorem Ready.push (ready : adapter.Ready) (payload : Octets) :
    (adapter.push payload).2.Ready := by
  by_cases filled : payload = []
  case pos => rwa [filled, push_nil]
  case neg =>
    cases judged : adapter.kindWith? payload with
    | none => rwa [push_unknown filled judged]
    | some kind =>
        obtain ⟨inputs, next, pushed, ready, -⟩ := ready.exists_push filled judged
        rwa [pushed]

/-- A new size and a teardown drop the configuration, so nothing must be ready then. -/
theorem Ready.call (ready : adapter.Ready) (call : Call) : (adapter.call call).2.Ready := by
  cases call with
  | push payload => exact ready.push payload
  | setGeometry width height =>
      intro configured
      cases configured
  | teardown =>
      intro configured
      cases configured

theorem Ready.run (ready : adapter.Ready) (calls : List Call) : (adapter.run calls).Ready := by
  induction calls generalizing adapter with
  | nil => exact ready
  | cons call rest inductionHypothesis => exact inductionHypothesis (ready.call call)

/-- Only a teardown forgets the kind of the stream. -/
theorem Ready.kind_call (ready : adapter.Ready) {kind : StreamKind}
    (known : adapter.kind = some kind) {call : Call} (alive : call ≠ .teardown) :
    (adapter.call call).2.kind = some kind := by
  cases call with
  | push payload =>
      by_cases filled : payload = []
      case pos => rwa [filled]
      case neg =>
        obtain ⟨inputs, next, pushed, -, same, -⟩ :=
          ready.exists_push filled (kindWith?_of_kind known payload)
        rwa [Adapter.call, pushed]
  | setGeometry width height => exact known
  | teardown => exact absurd rfl alive

theorem Ready.kind_run (ready : adapter.Ready) {kind : StreamKind}
    (known : adapter.kind = some kind) {calls : List Call} (alive : .teardown ∉ calls) :
    (adapter.run calls).kind = some kind := by
  induction calls generalizing adapter with
  | nil => exact known
  | cons call rest inductionHypothesis =>
      rw [List.mem_cons, not_or] at alive
      exact inductionHypothesis (ready.call call) (ready.kind_call known (Ne.symm alive.1)) alive.2

variable {capabilities : Capabilities} {settings : Settings} {fresh : Adapter}

/-- An adapter begins with the selected strategy and knows nothing else. -/
theorem exists_of_create (created : create capabilities settings = .ok fresh) :
    ∃ kind, settings.select? capabilities = some kind ∧
      fresh = { strategy := .create kind settings.fps settings.timescale } := by
  rw [create] at created
  split at created
  case h_1 kind selected =>
    cases created
    exact ⟨kind, selected, rfl⟩
  case h_2 => cases created

theorem ready_of_create (created : create capabilities settings = .ok fresh) : fresh.Ready := by
  obtain ⟨kind, -, rfl⟩ := exists_of_create created
  intro configured
  cases configured

/-- A payload is refused only while the kind of the stream is not known, and then it changes nothing.
A payload that shows the kind settles it until the next teardown. Every payload of a known kind is
accepted: an image is passed on as it is and changes nothing else, and video gives no image. -/
theorem push_accepts (created : create capabilities settings = .ok fresh) (calls : List Call)
    (payload : Octets) :
    let adapter := fresh.run calls
    (∀ fault, (adapter.push payload).1 = .error fault ↔
      payload ≠ [] ∧ adapter.kind = none ∧ StreamKind.detect? payload = none ∧
        fault = .unsupportedStream (payload.take 4)) ∧
    (∀ fault, (adapter.push payload).1 = .error fault → (adapter.push payload).2 = adapter) ∧
    (∀ kind, payload ≠ [] → adapter.kindWith? payload = some kind →
      ∀ later, .teardown ∉ later → ((adapter.push payload).2.run later).kind = some kind) ∧
    (payload ≠ [] → adapter.kindWith? payload = some .jpeg →
      adapter.push payload = (.ok [.image payload], { adapter with kind := some .jpeg })) ∧
    (payload ≠ [] → adapter.kindWith? payload = some .h264 →
      ∃ inputs, (adapter.push payload).1 = .ok inputs ∧ ∀ octets, .image octets ∉ inputs) := by
  intro adapter
  have ready : adapter.Ready := (ready_of_create created).run calls
  refine ⟨fun fault => ⟨fun failed => ?_, ?_⟩, fun fault failed => ?_, fun kind filled known => ?_,
    fun filled known => ?_, fun filled known => ?_⟩
  · obtain ⟨filled, unknown⟩ := ready.unknown_of_error failed
    rw [push_unknown filled unknown] at failed
    rw [kindWith?, Option.or_eq_none_iff] at unknown
    exact ⟨filled, unknown.1, unknown.2, (Except.error.inj failed).symm⟩
  · rintro ⟨filled, unknown, undetected, rfl⟩
    rw [push_unknown filled (Option.or_eq_none_iff.2 ⟨unknown, undetected⟩)]
  · obtain ⟨filled, unknown⟩ := ready.unknown_of_error failed
    rw [push_unknown filled unknown]
  · obtain ⟨inputs, next, pushed, ready, same, -⟩ := ready.exists_push filled known
    rw [pushed]
    exact fun later alive => ready.kind_run same alive
  · exact push_known filled known
  · obtain ⟨inputs, next, pushed, -, -, noImage⟩ := ready.exists_push filled known
    rw [pushed]
    exact ⟨inputs, rfl, noImage rfl⟩

/-- A malformed set is no fault, and neither is the slice that it leaves without a decoder. -/
theorem push_accepts_malformed :
    ∃ fresh, create .all {} = .ok fresh ∧
      let adapter := fresh.run [.setGeometry 1280 720, .push [0, 0, 1, 0x67], .teardown]
      let payload : Octets := [0, 0, 1, 0x67, 0, 0, 1, 0x68, 0xCE, 0, 0, 1, 0x65, 0x88]
      adapter.kindWith? payload = some .h264 ∧
        ∃ inputs, (adapter.push payload).1 = .ok inputs ∧ ∀ octets, .image octets ∉ inputs := by
  refine ⟨_, rfl, ?_⟩
  intro adapter payload
  have known : adapter.kindWith? payload = some .h264 := by decide +kernel
  have created : create .all {} = .ok { strategy := .create .hardware 60 90000 } := rfl
  obtain ⟨-, -, -, -, video⟩ := push_accepts created
    [.setGeometry 1280 720, .push [0, 0, 1, 0x67], .teardown] payload
  exact ⟨known, video (by decide) known⟩

end Adapter

end Screencast.Decoder
