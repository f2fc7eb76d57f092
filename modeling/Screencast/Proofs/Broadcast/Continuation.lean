/-
This file relates a turn to its later stages. A session only ever adds effects of its own, and they
say what happened to the queues.
-/

import Screencast.Proofs.Broadcast.Queues

namespace Screencast.Broadcast.Turn

/-- A later stage of a turn has all its effects, and the added ones are the session's own. Nothing
but the offers among them changed the queues. -/
structure Continues (turn later : Turn) : Prop where
  format : later.session.format = turn.session.format
  own : ∀ effect ∈ later.effects,
    effect ∈ turn.effects ∨ effect.format = turn.session.format
  replayed : ∃ added, later.effects = turn.effects ++ added ∧ Faithful turn.mail added ∧
    later.mail = turn.mail.replay added

namespace Continues

/-- A change of the session that keeps its format does not matter. -/
theorem session {turn : Turn} {session : Session} (format : session.format = turn.session.format) :
    Continues turn { turn with session } :=
  ⟨format, fun _ => .inl, [], (List.append_nil _).symm, trivial, rfl⟩

theorem refl (turn : Turn) : Continues turn turn := session rfl

theorem trans {turn middle last : Turn} (former : Continues turn middle)
    (latter : Continues middle last) : Continues turn last where
  format := latter.format.trans former.format
  own effect member := by
    rcases latter.own effect member with earlier | own
    · exact former.own effect earlier
    · exact .inr (own.trans former.format)
  replayed := by
    obtain ⟨first, effects, faithful, mail⟩ := former.replayed
    obtain ⟨second, others, answers, queues⟩ := latter.replayed
    rw [mail] at answers queues
    refine ⟨first ++ second, ?_, (faithful_append _ _ _).2 ⟨faithful, answers⟩, ?_⟩
    · rw [others, effects, List.append_assoc]
    · rw [queues, Mailboxes.replay_append]

theorem before {turn later : Turn} {session : Session}
    (continues : Continues { turn with session } later)
    (format : session.format = turn.session.format) : Continues turn later :=
  (Continues.session format).trans continues

/-- One more effect of the session itself continues a turn. -/
theorem effect {turn later : Turn} (effect : Effect) (own : effect.format = turn.session.format)
    (format : later.session.format = turn.session.format)
    (effects : later.effects = turn.effects ++ [effect]) (faithful : Faithful turn.mail [effect])
    (mail : later.mail = turn.mail.replay [effect]) : Continues turn later where
  format := format
  own other member := by
    rw [effects] at member
    rcases List.mem_append.1 member with earlier | new
    · exact .inl earlier
    · exact .inr (by rw [List.mem_singleton.1 new, own])
  replayed := ⟨[effect], effects, faithful, mail⟩

theorem call (turn : Turn) (request : SourceCall) : Continues turn (turn.call request) :=
  effect (.call turn.session.format request) rfl rfl rfl trivial rfl

theorem offer (turn : Turn) (viewer : ViewerId) (message : Message) :
    Continues turn (turn.offer viewer message).2 :=
  effect (.offer turn.session.format viewer message _) rfl rfl rfl ⟨rfl, trivial⟩ rfl

theorem foldl {State Value : Type} (turnOf : State → Turn) {step : State → Value → State}
    (continues : ∀ state value, Continues (turnOf state) (turnOf (step state value)))
    (state : State) (values : List Value) :
    Continues (turnOf state) (turnOf (values.foldl step state)) := by
  induction values generalizing state with
  | nil => exact refl _
  | cons first rest inductionHypothesis =>
      exact (continues state first).trans (inductionHypothesis _)

theorem announce (turn : Turn) (info : StartInfo) (catchUp : List Octets) (viewer : ViewerId) :
    Continues turn (turn.announce info catchUp viewer) :=
  before (foldl id (fun turn message => offer turn viewer message) _ _) rfl

theorem start (turn : Turn) : Continues turn turn.start := by
  unfold Turn.start
  split
  · exact before (call _ _) rfl
  · exact refl turn

theorem stopSource (turn : Turn) : Continues turn turn.stopSource := by
  unfold Turn.stopSource
  split
  · exact (call turn .stop).trans (session rfl)
  · exact session rfl

theorem stopLive (turn : Turn) : Continues turn turn.stopLive := before (stopSource _) rfl

theorem subscribe (turn : Turn) (viewer : ViewerId) (catchUp : List Octets) :
    Continues turn (turn.subscribe viewer catchUp) := by
  unfold Turn.subscribe
  dsimp only
  split
  · exact before (start _) rfl
  · exact session rfl
  · split
    · exact session rfl
    · split
      · exact before (announce _ _ _ _) rfl
      · exact session rfl

theorem unsubscribe (turn : Turn) (gone : List ViewerId) :
    Continues turn (turn.unsubscribe gone).2 := by
  have left := unsubscribe_left turn gone
  generalize turn.unsubscribe gone = result at left
  cases left with
  | nobody => exact refl turn
  | some | idle | starting => exact session rfl
  | live => exact before (stopLive _) rfl

theorem offerCounted (message : Message) (state : List ViewerId × Turn) (viewer : ViewerId) :
    Continues state.2 (offerCounted message state viewer).2 := by
  have offered := offer state.2 viewer message
  rcases found : state.2.offer viewer message with ⟨delivery, next⟩
  rw [found] at offered
  simp only [Turn.offerCounted, found]
  cases delivery with
  | sent => exact offered
  | dropped => exact offered.trans (session rfl)
  | closed => exact offered

theorem deliver (turn : Turn) (message : Message) (viewers : List ViewerId) :
    Continues turn (turn.deliver message viewers).2 :=
  (foldl Prod.snd (offerCounted message) ([], turn) viewers).trans (unsubscribe _ _)

theorem goLive (turn : Turn) (info : StartInfo) : Continues turn (turn.goLive info) := by
  unfold Turn.goLive
  split
  · exact stopSource _
  · exact before (foldl id (fun turn viewer => announce turn info [] viewer) _ _) rfl

theorem started (turn : Turn) (outcome : Outcome) : Continues turn (turn.started outcome) := by
  cases outcome with
  | live info => exact before (goLive _ info) rfl
  | cancelled =>
      unfold Turn.started
      dsimp only
      split
      · exact before ((call _ _).trans (session rfl)) rfl
      · exact before ((call _ _).trans (before (start _) rfl)) rfl
  | failed fault =>
      unfold Turn.started
      dsimp only
      split
      · exact before ((call _ _).trans (deliver _ _ _)) rfl
      · exact before (call _ _) rfl

theorem relay (turn : Turn) (payload : Octets) : Continues turn (turn.relay payload).2 :=
  before (deliver _ _ _) rfl

theorem ended (turn : Turn) : Continues turn turn.ended :=
  (stopLive turn).trans (session rfl)

theorem shutdown (turn : Turn) (outcome : Outcome) : Continues turn (turn.shutdown outcome) := by
  cases token : turn.session.token with
  | none =>
      rw [shutdown_settled token]
      split
      · exact before (stopLive _) rfl
      · exact session rfl
  | some cancelled =>
      rw [shutdown_pending (by simp [token])]
      exact before (started _ _) rfl

end Continues

end Screencast.Broadcast.Turn
