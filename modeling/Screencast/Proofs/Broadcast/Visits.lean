/-
This file counts the calls that a source receives while some viewers come and then leave.
-/

import Screencast.Proofs.Broadcast.Calls
import Screencast.Proofs.Broadcast.Deliveries
import Screencast.Proofs.Broadcast.Keyframes

namespace Screencast.Broadcast

namespace Input

/-- A viewer comes to a format, or one of some viewers gives a command. -/
def concerns (format : Format) (viewers : List ViewerId) : Input → Bool
  | .subscribe viewer chosen => chosen = format || viewer ∈ viewers
  | .unsubscribe viewer => viewer ∈ viewers
  | _ => false

/-- A station is closed by this input. -/
def shuts : Input → Bool
  | .shutdown .. => true
  | _ => false

end Input

/-- The start of a source succeeds, or it reports that it was cancelled after it was told so. -/
def Session.admits (session : Session) : Outcome → Bool
  | .live _ => true
  | .cancelled => session.token = some true
  | .failed _ => false

/-- Some viewers come to a format one after the other, and then some leave. -/
def commands (format : Format) (coming leaving : List ViewerId) : List Input :=
  coming.map (.subscribe · format) ++ leaving.map .unsubscribe

theorem eq_nil_of_commands {format : Format} {coming leaving : List ViewerId}
    (none : commands format coming leaving = []) : coming = [] ∧ leaving = [] := by
  obtain ⟨arrived, left⟩ := List.append_eq_nil_iff.1 none
  exact ⟨List.map_eq_nil_iff.1 arrived, List.map_eq_nil_iff.1 left⟩

/-- A visit goes through these stages. Some of its viewers are still coming, and those that are here
or coming are still to leave. The last argument says whether the start of the source was settled. -/
inductive Stage (session : Session) (calls : List SourceCall) (coming leaving : List ViewerId) :
    Bool → Prop
  | fresh (idle : session.state = .idle) (nobody : session.subscribers = [])
      (expected : coming ≠ []) (balance : coming.Perm leaving) (starts : session.starts = 0)
      (stops : session.stops = 0) (silent : calls = []) :
      Stage session calls coming leaving false
  | pending (starting : session.state = .starting)
      (balance : (session.subscribers.map Subscriber.viewer ++ coming).Perm leaving)
      (cancelled : session.token = some true → leaving = []) (starts : session.starts = 1)
      (stops : session.stops = 0) (started : calls = [.start]) :
      Stage session calls coming leaving false
  | running (live : session.state = .live)
      (balance : (session.subscribers.map Subscriber.viewer ++ coming).Perm leaving)
      (starts : session.starts = 1) (stops : session.stops = 0) (started : calls = [.start]) :
      Stage session calls coming leaving true
  | ended (idle : session.state = .idle) (nobody : session.subscribers = [])
      (arrived : coming = []) (left : leaving = []) (starts : session.starts = 1)
      (stops : session.stops = 1) (stopped : calls = [.start, .stop]) :
      Stage session calls coming leaving true

namespace Stage

/-- The calls of a turn follow those of the past. -/
abbrev Of (turn : Turn) (past : List SourceCall) (coming leaving : List ViewerId)
    (settled : Bool) : Prop :=
  Stage turn.session (past ++ callsOf turn.session.format turn.effects) coming leaving settled

section

variable {session : Session} {calls : List SourceCall} {coming leaving : List ViewerId}
  {settled : Bool}

/-- Everybody who is here is still to leave. -/
theorem mem_leaving (stage : Stage session calls coming leaving settled) {viewer : ViewerId}
    (here : viewer ∈ session.subscribers.map Subscriber.viewer) : viewer ∈ leaving := by
  cases stage with
  | fresh _ nobody | ended _ nobody => simp [nobody] at here
  | pending _ balance | running _ balance =>
      exact balance.mem_iff.1 (List.mem_append_left coming here)

/-- The counters of relayed and lost payloads do not matter. -/
theorem counted (stage : Stage session calls coming leaving settled) (relayed dropped : Nat) :
    Stage { session with relayed, dropped } calls coming leaving settled := by
  cases stage with
  | fresh idle nobody expected balance starts stops silent =>
      exact .fresh idle nobody expected balance starts stops silent
  | pending starting balance cancelled starts stops started =>
      exact .pending starting balance cancelled starts stops started
  | running live balance starts stops started =>
      exact .running live balance starts stops started
  | ended idle nobody arrived left starts stops stopped =>
      exact .ended idle nobody arrived left starts stops stopped

/-- When everybody has come and left, nobody is here. -/
theorem nobody (stage : Stage session calls [] [] settled) : session.subscribers = [] := by
  cases stage with
  | fresh _ nobody | ended _ nobody => exact nobody
  | pending _ balance | running _ balance =>
      rw [List.append_nil] at balance
      exact List.map_eq_nil_iff.1 balance.eq_nil

/-- A start that was settled leads to a visit that is over when everybody has left. -/
theorem finished (stage : Stage session calls [] [] true) (coherent : session.Coherent) :
    calls = [.start, .stop] ∧ session.starts = 1 ∧ session.stops = 1 ∧ session.state = .idle ∧
      session.subscribers = [] := by
  have empty := stage.nobody
  cases stage with
  | running live => exact absurd empty (coherent.watched live)
  | ended idle _ _ _ starts stops stopped => exact ⟨stopped, starts, stops, idle, empty⟩

end

variable {turn : Turn} {past : List SourceCall} {coming leaving : List ViewerId}
  {viewer : ViewerId} {settled : Bool}

/-- The next viewer comes. The first one starts the source. -/
theorem subscribe (stage : Of turn past (viewer :: coming) leaving settled)
    (coherent : turn.session.Coherent) (distinct : leaving.Nodup) (catchUp : List Octets) :
    Of (turn.subscribe viewer catchUp) past coming leaving settled := by
  have joined := coherent.subscribe_joined viewer catchUp
  have viewers (stranger : turn.session.contains viewer = false) :
      (turn.session.join viewer).subscribers.map Subscriber.viewer =
        turn.session.subscribers.map Subscriber.viewer ++ [viewer] := by
    rw [Session.Coherent.join_of_stranger stranger, List.map_append]
    rfl
  have new (balance : (turn.session.subscribers.map Subscriber.viewer ++
      viewer :: coming).Perm leaving) : turn.session.contains viewer = false := by
    have apart := (List.nodup_append.1 (balance.nodup_iff.2 distinct)).2.2
    refine Bool.eq_false_iff.2 fun here => ?_
    exact apart viewer (Session.contains_iff.1 here) viewer List.mem_cons_self rfl
  generalize turn.subscribe viewer catchUp = last at joined
  cases stage with
  | fresh idle nobody expected balance starts stops silent =>
      cases joined with
      | starts =>
          have stranger : turn.session.contains viewer = false := by
            simp [Session.contains, nobody]
          refine .pending rfl ?_ (by simp) (by simp [starts]) stops ?_
          · simpa [viewers stranger, nobody] using balance
          · rw [Session.join_format, callsOf_append, callsOf_call]
            rw [← List.append_assoc, silent]
            rfl
      | waits starting => cases idle.symm.trans starting
      | stays live | told live => cases idle.symm.trans live
  | pending starting balance cancelled starts stops started =>
      cases joined with
      | starts idle => cases idle.symm.trans starting
      | waits =>
          refine .pending starting ?_ cancelled starts stops started
          simpa [viewers (new balance)] using balance
      | stays live | told live => cases starting.symm.trans live
  | running live balance starts stops started =>
      cases joined with
      | starts idle => cases idle.symm.trans live
      | waits starting => cases starting.symm.trans live
      | stays _ known => cases (new balance).symm.trans known
      | told =>
          refine .running ?_ ?_ ?_ ?_ ?_
          all_goals rw [Turn.announce_session]
          · exact live
          · simpa [viewers (new balance)] using balance
          · exact starts
          · exact stops
          · simpa using started
  | ended _ _ arrived => cases arrived

/-- Those who stay when one of them leaves. -/
theorem perm_of_left {subscribers : List Subscriber}
    (balance : (subscribers.map Subscriber.viewer).Perm (viewer :: leaving))
    (distinct : (viewer :: leaving).Nodup) :
    ((subscribers.filter fun subscriber => subscriber.viewer ∉ [viewer]).map
      Subscriber.viewer).Perm leaving := by
  have stay : (viewer :: leaving).filter (fun other => other ∉ [viewer]) = leaving := by
    rw [List.filter_cons_of_neg (by simp), List.filter_eq_self]
    intro other member
    have different : other ≠ viewer := by
      rintro rfl
      exact (List.nodup_cons.1 distinct).1 member
    simpa using different
  have kept := balance.filter fun other => other ∉ [viewer]
  rw [stay, List.filter_map] at kept
  exact kept

/-- The next viewer leaves. The last one stops the source or cancels its start. -/
theorem unsubscribe (stage : Of turn past [] (viewer :: leaving) settled)
    (coherent : turn.session.Coherent) (distinct : (viewer :: leaving).Nodup) :
    Of (turn.unsubscribe [viewer]).2 past [] leaving settled := by
  have left := Turn.unsubscribe_left turn [viewer]
  have others (balance : (turn.session.subscribers.map Subscriber.viewer ++ []).Perm
      (viewer :: leaving)) := perm_of_left (by simpa using balance) distinct
  generalize turn.session.subscribers.filter (fun subscriber =>
    decide (subscriber.viewer ∉ [viewer])) = rest at left others
  rw [← List.append_nil (rest.map _)] at others
  generalize turn.unsubscribe [viewer] = result at left
  cases stage with
  | fresh _ _ expected => exact absurd rfl expected
  | pending starting balance cancelled starts stops started =>
      have uncancelled : turn.session.token = some true → leaving = [] := fun token => by
        cases cancelled token
      cases left with
      | nobody same =>
          exact .pending starting (same ▸ others balance) uncancelled starts stops started
      | some => exact .pending starting (others balance) uncancelled starts stops started
      | idle _ idle => cases idle.symm.trans starting
      | starting empty =>
          refine .pending starting (others balance) (fun _ => ?_) starts stops started
          simpa [empty] using others balance
      | live _ live => cases live.symm.trans starting
  | running live balance starts stops started =>
      cases left with
      | nobody same => exact .running live (same ▸ others balance) starts stops started
      | some => exact .running live (others balance) starts stops started
      | idle _ idle => cases idle.symm.trans live
      | starting _ starting => cases starting.symm.trans live
      | live empty =>
          have home := coherent.home_of_ne (by simp [live])
          rw [Turn.stopLive_of_home (turn.withSubscribers rest) home]
          refine .ended rfl empty rfl ?_ starts ?_ ?_
          · simpa [empty] using others balance
          · exact congrArg (· + 1) stops
          · simp only [Turn.withSubscribers, callsOf_append, callsOf_call]
            rw [← List.append_assoc, started]
            rfl
  | ended _ _ _ left => cases left

/-- An admitted outcome ends a pending start. -/
theorem started (stage : Of turn past coming leaving settled) (coherent : turn.session.Coherent)
    (pending : turn.session.state = .starting) {outcome : Outcome}
    (admitted : turn.session.admits outcome = true) :
    Of (turn.started outcome) past coming leaving true := by
  cases stage with
  | fresh idle | ended idle => cases idle.symm.trans pending
  | running live => cases live.symm.trans pending
  | pending _ balance cancelled starts stops started =>
      by_cases empty : turn.session.subscribers = []
      · have left := cancelled (coherent.cancelled pending empty)
        have arrived : coming = [] := by simpa [empty, left] using balance
        obtain ⟨⟨lost, session⟩, calls, -⟩ := turn.started_unwatched empty outcome
        have success : outcome.isFailed = false := by
          cases outcome with
          | live | cancelled => rfl
          | failed => cases admitted
        rw [Of, session]
        refine .ended rfl empty arrived left starts ?_ ?_
        · simp [stops, success]
        · rw [calls, ← List.append_assoc, started]
          rfl
      · cases outcome with
        | live info =>
            obtain ⟨session, calls, -⟩ := Turn.started_live_watched empty info
            rw [Of, session]
            refine .running rfl ?_ starts stops ?_
            · rwa [Session.viewers_map]
            · rw [calls]
              exact started
        | cancelled =>
            -- A start is cancelled by the last viewer, and then nobody is here any more.
            have left := cancelled (of_decide_eq_true admitted)
            rw [left] at balance
            have nobody := (List.append_eq_nil_iff.1 balance.eq_nil).1
            exact absurd (List.map_eq_nil_iff.1 nobody) empty
        | failed fault => cases admitted

/-- A shutdown after the visit only settles a start that is still pending. -/
theorem shutdown (stage : Of turn past [] [] settled) (coherent : turn.session.Coherent)
    {outcome : Outcome}
    (admitted : turn.session.state = .starting → turn.session.admits outcome = true) :
    Of (turn.shutdown outcome) past [] [] (settled || turn.session.state = .starting) := by
  have empty := stage.nobody
  have stays : turn.withSubscribers [] = turn := by
    rw [← empty]
    rfl
  cases state : turn.session.state with
  | idle =>
      rw [Turn.shutdown_settled (coherent.token_of_ne (by simp [state])),
        if_neg (by simp [state]), stays]
      simpa using stage
  | starting =>
      rw [Turn.shutdown_pending (coherent.token.2 state), stays]
      simpa using stage.started coherent state (admitted state)
  | live => exact absurd empty (coherent.watched state)

section

variable {visitors : List ViewerId} (stage : Of turn past coming leaving settled)
  (coherent : turn.session.Coherent) (known : leaving ⊆ visitors)
  (reachable : ∀ viewer ∈ visitors, (turn.mail.get viewer).isOpen = true) (catchUp : List Octets)

include stage coherent known reachable

/-- What is no command of the visit only settles its start. -/
theorem handle_quiet {input : Input}
    (quiet : input.concerns turn.session.format visitors = false)
    (endless : ∀ reason, input ≠ .event turn.session.format (.ended reason))
    (admitted : ∀ outcome ∈ turn.session.settled? input, turn.session.admits outcome = true)
    (done : input.shuts = true → coming = [] ∧ leaving = []) :
    Of (turn.handle catchUp input) past coming leaving
      (settled || (turn.session.settled? input).isSome) := by
  have same (silent : turn.session.settled? input = none) :
      Of turn past coming leaving (settled || (turn.session.settled? input).isSome) := by
    simpa [silent] using stage
  have stranger {viewer : ViewerId} (unknown : viewer ∉ visitors) :
      (turn.unsubscribe [viewer]).2 = turn := by
    refine congrArg Prod.snd (Turn.unsubscribe_of_stranger (Bool.eq_false_iff.2 fun here => ?_))
    exact unknown (known (stage.mem_leaving (Session.contains_iff.1 here)))
  cases input with
  | subscribe viewer format =>
      simp only [Input.concerns, Bool.or_eq_false_iff, decide_eq_false_iff_not] at quiet
      rw [Turn.handle, if_neg quiet.1, stranger quiet.2]
      exact same (ite_self _)
  | unsubscribe viewer =>
      rw [Turn.handle, stranger (of_decide_eq_false quiet)]
      exact same (ite_self _)
  | started format outcome =>
      rw [Turn.handle]
      split
      case isTrue own =>
        have pending := coherent.away.1 own.2
        have settles : turn.session.settled? (.started format outcome) = some outcome :=
          (Session.settled?_of_pending pending).trans (if_pos own.1)
        rw [settles, Option.isSome_some, Bool.or_true]
        exact stage.started coherent pending (admitted outcome settles)
      case isFalse other => exact same (coherent.settled?_started other outcome)
  | event format event =>
      cases event with
      | data payload =>
          rw [Turn.handle]
          split
          · have here : ∀ subscriber ∈ turn.session.subscribers,
                (turn.mail.get subscriber.viewer).isOpen = true := fun subscriber member =>
              reachable _ (known (stage.mem_leaving (List.mem_map_of_mem member)))
            obtain ⟨offered, lost, relayed, session, calls⟩ := Turn.relay_of_open here payload
            rw [relayed, Of, session, calls]
            exact (same (ite_self _)).counted _ _
          · exact same (ite_self _)
      | ended reason =>
          rw [Turn.handle]
          split
          case isTrue own => exact absurd (by rw [own.1]) (endless reason)
          case isFalse => exact same (ite_self _)
  | shutdown h264 jpeg =>
      obtain ⟨rfl, rfl⟩ := done rfl
      rw [Turn.handle]
      have settles := stage.shutdown coherent
        fun pending => admitted _ (Session.settled?_of_pending pending)
      by_cases pending : turn.session.state = .starting
      · simpa [Session.settled?, Input.outcome?, pending] using settles
      · simpa [Session.settled?, pending] using settles
  | receive | close => exact same (ite_self _)

/-- An input is the next command of the visit, or the same commands are still awaited. -/
theorem handle {input : Input} {rest : List Input} (distinct : leaving.Nodup)
    (awaited : (input :: rest).filter (Input.concerns turn.session.format visitors) =
      commands turn.session.format coming leaving)
    (endless : ∀ reason, input ≠ .event turn.session.format (.ended reason))
    (admitted : ∀ outcome ∈ turn.session.settled? input, turn.session.admits outcome = true)
    (done : input.shuts = true → coming = [] ∧ leaving = []) :
    ∃ next remaining, rest.filter (Input.concerns turn.session.format visitors) =
        commands turn.session.format next remaining ∧ remaining.Sublist leaving ∧
      Of (turn.handle catchUp input) past next remaining
        (settled || (turn.session.settled? input).isSome) := by
  cases concerned : input.concerns turn.session.format visitors with
  | false =>
      rw [List.filter_cons_of_neg (by simp [concerned])] at awaited
      exact ⟨coming, leaving, awaited, List.Sublist.refl _,
        stage.handle_quiet coherent known reachable catchUp concerned endless admitted done⟩
  | true =>
      -- The first command that is awaited is this input, and it is a subscription while some come.
      rw [List.filter_cons_of_pos concerned] at awaited
      cases coming with
      | cons viewer coming =>
          obtain ⟨rfl, others⟩ := List.cons.inj awaited
          refine ⟨coming, leaving, others, List.Sublist.refl _, ?_⟩
          have silent : turn.session.settled? (.subscribe viewer turn.session.format) = none :=
            ite_self _
          rw [Turn.handle, if_pos rfl, silent]
          simpa using stage.subscribe coherent distinct catchUp
      | nil =>
          cases leaving with
          | nil => cases awaited
          | cons viewer leaving =>
              obtain ⟨rfl, others⟩ := List.cons.inj awaited
              refine ⟨[], leaving, others, List.sublist_cons_self _ _, ?_⟩
              have silent : turn.session.settled? (.unsubscribe viewer) = none := ite_self _
              rw [Turn.handle, silent]
              simpa using stage.unsubscribe coherent distinct

end

end Stage

/-- The viewers of a visit are served until it ends: no command comes after a shutdown, the stream
does not end by itself, no queue is closed, and every outcome is admitted. -/
structure Undisturbed (scene : Scene) (format : Format) (visitors : List ViewerId)
    (inputs : List Input) : Prop where
  handled : inputs.Pairwise fun earlier later =>
    earlier.shuts = true → later.concerns format visitors = false
  endless : ∀ reason, .event format (.ended reason) ∉ inputs
  reachable : ∀ viewer ∈ visitors, .close viewer ∉ inputs
  admitted : ∀ step ∈ scene.steps inputs, ∀ outcome ∈ step.settled? format,
    (step.before.station.session format).admits outcome = true

namespace Undisturbed

variable {scene : Scene} {format : Format} {visitors : List ViewerId} {input : Input}
  {rest : List Input} (undisturbed : Undisturbed scene format visitors (input :: rest))

include undisturbed

theorem filter_of_shuts (shut : input.shuts = true) :
    (input :: rest).filter (Input.concerns format visitors) = [] := by
  have unconcerned : input.concerns format visitors = false := by
    cases input with
    | shutdown => rfl
    | subscribe | unsubscribe | started | event | receive | close => cases shut
  have later := fun other member => (List.pairwise_cons.1 undisturbed.handled).1 other member shut
  simpa [unconcerned] using later

theorem tail : Undisturbed (scene.step input).1 format visitors rest where
  handled := (List.pairwise_cons.1 undisturbed.handled).2
  endless reason member := undisturbed.endless reason (List.mem_cons_of_mem _ member)
  reachable viewer known member :=
    undisturbed.reachable viewer known (List.mem_cons_of_mem _ member)
  admitted step member := undisturbed.admitted step (List.mem_cons_of_mem _ member)

end Undisturbed

namespace Scene

/-- A visit is under way, and these inputs are still to come. -/
structure Visited (scene : Scene) (format : Format) (visitors : List ViewerId)
    (calls : List SourceCall) (inputs : List Input) (settled : Bool) : Prop where
  coherent : scene.Coherent
  reachable : ∀ viewer ∈ visitors, (scene.mail.get viewer).isOpen = true
  closed : scene.station.isOpen = false →
    ∀ input ∈ inputs, input.concerns format visitors = false
  empty : format = .h264 → scene.isLive .h264 = false → scene.station.store = {}
  stage : ∃ coming leaving, inputs.filter (Input.concerns format visitors) =
      commands format coming leaving ∧ leaving.Nodup ∧ leaving ⊆ visitors ∧
    Stage (scene.station.session format) calls coming leaving settled

namespace Visited

variable {scene : Scene} {format : Format} {visitors : List ViewerId} {calls : List SourceCall}
  {input : Input} {rest : List Input} {settled : Bool}

theorem nothing_left (visited : scene.Visited format visitors calls rest settled)
    (done : rest.filter (Input.concerns format visitors) = []) :
    Stage (scene.station.session format) calls [] [] settled := by
  obtain ⟨coming, leaving, awaited, -, -, stage⟩ := visited.stage
  obtain ⟨rfl, rfl⟩ := eq_nil_of_commands (awaited.symm.trans done)
  exact stage

/-- A closed station handles no input, so the stage of the visit stays. -/
theorem stage_of_closed (visited : scene.Visited format visitors calls (input :: rest) settled)
    (closed : scene.station.isOpen = false) :
    Stage ((scene.step input).1.station.session format)
      (calls ++ callsOf format (scene.step input).2) [] []
      (settled || ((scene.record input).settled? format).isSome) := by
  have silent : (scene.record input).settled? format = none := by
    simp [Step.settled?, record, closed]
  have stage := visited.nothing_left (by simpa using visited.closed closed)
  rw [(step_of_closed closed input).1, (step_of_closed closed input).2, silent]
  simpa using stage

/-- An open station handles an input, and its session takes part. -/
theorem stage_of_open (visited : scene.Visited format visitors calls (input :: rest) settled)
    (undisturbed : Undisturbed scene format visitors (input :: rest))
    (isOpen : scene.station.isOpen = true) :
    ∃ coming leaving, rest.filter (Input.concerns format visitors) =
        commands format coming leaving ∧ leaving.Nodup ∧ leaving ⊆ visitors ∧
      Stage ((scene.step input).1.station.session format)
        (calls ++ callsOf format (scene.step input).2) coming leaving
        (settled || ((scene.record input).settled? format).isSome) := by
  have own : (scene.turn format).session.format = format := visited.coherent.sorted format
  have shows := step_shows visited.coherent.sorted isOpen input format
  have settles : (scene.record input).settled? format =
      (scene.turn format).session.settled? input := if_pos isOpen
  obtain ⟨coming, leaving, awaited, distinct, known, stage⟩ := visited.stage
  have stage : Stage.Of (scene.turn format) calls coming leaving settled := by
    simpa [Stage.Of, turn] using stage
  have done (shut : input.shuts = true) : coming = [] ∧ leaving = [] :=
    eq_nil_of_commands (awaited.symm.trans (undisturbed.filter_of_shuts shut))
  obtain ⟨next, remaining, later, fewer, last⟩ := stage.handle (visited.coherent.sessions format)
    known visited.reachable (scene.catchUp format) distinct (by rw [own]; exact awaited)
    (fun reason same => undisturbed.endless reason (by rw [same, own]; exact List.mem_cons_self))
    (settles ▸ undisturbed.admitted _ List.mem_cons_self) done
  have kept := (Turn.Continues.handle (scene.turn format) (scene.catchUp format) input).format
  rw [own] at later
  rw [Stage.Of, kept, own, ← shows.session, ← shows.effects, callsOf_effectsOf, ← settles] at last
  exact ⟨next, remaining, later, fewer.nodup distinct, List.Subset.trans fewer.subset known, last⟩

/-- Without a running stream of a recorder, nothing is stored. -/
theorem empty_of_open (visited : scene.Visited .h264 visitors calls (input :: rest) settled)
    (undisturbed : Undisturbed scene .h264 visitors (input :: rest))
    (isOpen : scene.station.isOpen = true)
    (silent : (scene.handle input).1.isLive .h264 = false) :
    (scene.handle input).1.station.store = {} := by
  have empty := visited.empty rfl
  cases stays : (scene.handle input).1.station.isOpen with
  | true =>
      rw [follows_of_isOpen visited.coherent empty input stays, silent]
      rfl
  | false =>
      obtain ⟨h264, jpeg, rfl⟩ := exists_shutdown_of_closed isOpen stays
      have nobody := (visited.nothing_left (undisturbed.filter_of_shuts rfl)).nobody
      exact empty (decide_eq_false fun live =>
        (visited.coherent.sessions .h264).watched live nobody)

/-- The next input leads on. -/
theorem step (visited : scene.Visited format visitors calls (input :: rest) settled)
    (undisturbed : Undisturbed scene format visitors (input :: rest)) :
    (scene.step input).1.Visited format visitors
      (calls ++ callsOf format (scene.step input).2) rest
      (settled || ((scene.record input).settled? format).isSome) := by
  have coherent := visited.coherent.step input
  have reachable (viewer : ViewerId) (known : viewer ∈ visitors) :
      ((scene.step input).1.mail.get viewer).isOpen = true := by
    have stays : input ≠ .close viewer := by
      rintro rfl
      exact undisturbed.reachable viewer known List.mem_cons_self
    rw [isOpen_step, visited.reachable viewer known, decide_eq_true stays, Bool.and_true]
  cases isOpen : scene.station.isOpen with
  | false =>
      have station := (step_of_closed isOpen input).1
      have rested (later : Input) (member : later ∈ rest) :
          later.concerns format visitors = false :=
        visited.closed isOpen later (List.mem_cons_of_mem _ member)
      refine ⟨coherent, reachable, fun _ => rested, ?_, [], [], ?_, List.nodup_nil,
        List.nil_subset _, visited.stage_of_closed isOpen⟩
      · rw [isLive, station]
        exact visited.empty
      · simpa [commands] using rested
  | true =>
      have stage := visited.stage_of_open undisturbed isOpen
      rw [step_of_open isOpen] at coherent reachable stage ⊢
      refine ⟨coherent, reachable, fun closed later member => ?_, ?_, stage⟩
      · obtain ⟨h264, jpeg, rfl⟩ := exists_shutdown_of_closed isOpen closed
        exact (List.pairwise_cons.1 undisturbed.handled).1 later member rfl
      · rintro rfl silent
        exact visited.empty_of_open undisturbed isOpen silent

/-- A visit goes on through all its inputs. -/
theorem run {inputs : List Input}
    (visited : scene.Visited format visitors calls inputs settled)
    (undisturbed : Undisturbed scene format visitors inputs) :
    (scene.run inputs).1.Visited format visitors (calls ++ callsOf format (scene.run inputs).2) []
      (settled || (scene.steps inputs).any fun step => (step.settled? format).isSome) := by
  induction inputs generalizing scene calls settled with
  | nil => simpa [Scene.run, steps] using visited
  | cons input rest inductionHypothesis =>
      have later := inductionHypothesis (visited.step undisturbed) undisturbed.tail
      rw [List.append_assoc, ← callsOf_append, Bool.or_assoc] at later
      exact later

end Visited

end Scene

/-- Some viewers with open queues come to a format, all of them before the first one leaves, and
nobody else does. They leave in any order, and the start of the source is settled at any time. -/
structure Visit (scene : Scene) (format : Format) (arrivals departures : List ViewerId)
    (inputs : List Input) : Prop extends Undisturbed scene format arrivals inputs where
  somebody : arrivals ≠ []
  distinct : arrivals.Nodup
  everybody : departures.Perm arrivals
  queues : ∀ viewer ∈ arrivals, (scene.mail.get viewer).isOpen = true
  ordered : inputs.filter (Input.concerns format arrivals) = commands format arrivals departures
  settled : ∃ step ∈ scene.steps inputs, (step.settled? format).isSome

namespace Scene

theorem Visited.opened {serial : String} {mail : Mailboxes} {format : Format}
    {arrivals departures : List ViewerId} {inputs : List Input}
    (visit : Visit (opened serial mail) format arrivals departures inputs) :
    (Scene.opened serial mail).Visited format arrivals [] inputs false where
  coherent := Coherent.opened serial mail
  reachable := visit.queues
  closed shut := by cases shut
  empty _ _ := rfl
  stage := by
    refine ⟨arrivals, departures, visit.ordered, visit.everybody.nodup_iff.2 visit.distinct,
      visit.everybody.subset, ?_⟩
    cases format <;> exact .fresh rfl rfl visit.somebody visit.everybody.symm rfl rfl rfl

/-- However many viewers come to a format before they all leave, its source is started once and
stopped once. It does not matter whether the start is settled while they come, while they leave or
later, what the stream brings, or what other viewers do. Nothing is left of the visit. -/
theorem one_start_one_stop (serial : String) (mail : Mailboxes) {format : Format}
    {arrivals departures : List ViewerId} {inputs : List Input}
    (visit : Visit (opened serial mail) format arrivals departures inputs) :
    let last := (opened serial mail).run inputs
    let session := last.1.station.session format
    callsOf format last.2 = [.start, .stop] ∧ session.starts = 1 ∧ session.stops = 1 ∧
      session.state = .idle ∧ session.subscribers = [] ∧
      (format = .h264 → last.1.station.store = {}) := by
  intro last session
  have visited := (Visited.opened visit).run visit.toUndisturbed
  have stage := visited.nothing_left rfl
  have settled : ((opened serial mail).steps inputs).any
      (fun step => (step.settled? format).isSome) = true := List.any_eq_true.2 visit.settled
  rw [settled] at stage
  obtain ⟨calls, starts, stops, idle, nobody⟩ :=
    stage.finished (visited.coherent.sessions format)
  refine ⟨calls, starts, stops, idle, nobody, ?_⟩
  rintro rfl
  exact visited.empty rfl (decide_eq_false fun live => by cases idle.symm.trans live)

/-- The start is cancelled by the last viewer, while somebody else comes for the images. -/
theorem one_start_one_stop_cancelled :
    callsOf .h264 ((opened "device" ⟨[("one", .create 1), ("two", .create 2)]⟩).run
      [.subscribe "one" .h264, .subscribe "three" .jpeg, .subscribe "two" .h264,
        .receive "one" 1, .unsubscribe "two", .unsubscribe "three", .unsubscribe "one",
        .started .h264 .cancelled, .event .h264 (.data [0, 0, 1, 0x65, 2])]).2 =
      [.start, .stop] := by
  have visit : Visit (opened "device" ⟨[("one", .create 1), ("two", .create 2)]⟩) .h264
      ["one", "two"] ["two", "one"]
      [.subscribe "one" .h264, .subscribe "three" .jpeg, .subscribe "two" .h264,
        .receive "one" 1, .unsubscribe "two", .unsubscribe "three", .unsubscribe "one",
        .started .h264 .cancelled, .event .h264 (.data [0, 0, 1, 0x65, 2])] :=
    { handled := by decide +kernel
      endless := by simp
      reachable := by decide +kernel
      admitted := by decide +kernel
      somebody := by decide
      distinct := by decide
      everybody := by decide
      queues := by decide +kernel
      ordered := by decide +kernel
      settled := by decide +kernel }
  exact (one_start_one_stop "device" _ visit).1

end Scene

end Screencast.Broadcast
