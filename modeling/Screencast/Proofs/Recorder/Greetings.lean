/-
This file shows that a greeting is read once and ends where its parts end. What a greeting has read
depends on the octets that arrived and not on the chunks that brought them.
-/

import Mathlib.Data.Nat.Find
import Screencast.Proofs.Recorder.Conversations

namespace Screencast.Recorder

namespace Greeting

/-- Each chunk is appended to what is left in the buffer, which is then processed once. -/
def processAll (greeting : Greeting) (buffer : Octets) :
    List Octets → List (Option DeviceInfo) × Greeting × Octets
  | [] => ([], greeting, buffer)
  | chunk :: rest =>
      let (answer, next, left) := greeting.process (buffer ++ chunk)
      let (answers, last) := next.processAll left rest
      (answer :: answers, last)

/-- So many octets have arrived in all when a call is made. The first call has the number zero. -/
def arrived (chunks : List Octets) (call : Nat) : Nat := (chunks.take (call + 1)).flatten.length

/-- Octets that come later are read as if they had come at once. -/
theorem consume_append (info : DeviceInfo) (received : Nat) (buffer more : Octets)
    (parts : List Part) :
    consume info received (buffer ++ more) parts =
      consume (consume info received buffer parts).1.info
        (consume info received buffer parts).1.received
        ((consume info received buffer parts).2 ++ more)
        (consume info received buffer parts).1.pending := by
  induction parts generalizing info received buffer with
  | nil => rfl
  | cons part rest inductionHypothesis =>
      by_cases cut : buffer.length < part.size
      · simp only [consume, cut, if_true]
      · have whole : part.size ≤ buffer.length := Nat.le_of_not_lt cut
        have longer : ¬ (buffer ++ more).length < part.size := by
          rw [List.length_append]
          omega
        rw [consume, if_neg longer, consume, if_neg cut, List.take_append_of_le_length whole,
          List.drop_append_of_le_length whole, inductionHypothesis]

/-- This is a greeting that has read all it can of a stream, and what it left. -/
def reading (parts : List Part) (name : String) (stream : Octets) : Greeting × Octets :=
  consume { name } 0 stream parts

section

variable (parts : List Part) (name : String)

/-- A greeting is done when its parts are there. It counts their octets and leaves the others. -/
theorem reading_of_long {stream : Octets} (long : Part.total parts ≤ stream.length) :
    reading parts name stream =
      ({ pending := [], info := Part.applyAll { name } parts stream,
         received := Part.total parts, done := true }, stream.drop (Part.total parts)) := by
  rw [reading, consume_of_long long, Nat.zero_add]

/-- Until then it is not done. No octet is lost: each is counted or still in the buffer. -/
theorem reading_of_short {stream : Octets} (short : stream.length < Part.total parts) :
    (reading parts name stream).1.done = false ∧
      (reading parts name stream).1.received + (reading parts name stream).2.length =
        stream.length := by
  obtain ⟨count, pending, known, consumed, inside, -⟩ := consume_of_short short { name } 0
  have rest := List.length_drop (l := stream) (i := count)
  rw [reading, consumed]
  refine ⟨rfl, ?_⟩
  dsimp only
  omega

/-- A greeting tells its information when its stream gets long enough. -/
def answer? (former latter : Octets) : Option DeviceInfo :=
  if former.length < Part.total parts ∧ Part.total parts ≤ latter.length then
    some (Part.applyAll { name } parts latter)
  else none

/-- One more chunk is read as a longer stream. -/
theorem process_reading (stream chunk : Octets) :
    (reading parts name stream).1.process ((reading parts name stream).2 ++ chunk) =
      (answer? parts name stream (stream ++ chunk), reading parts name (stream ++ chunk)) := by
  have length : (stream ++ chunk).length = stream.length + chunk.length := List.length_append
  by_cases long : Part.total parts ≤ stream.length
  · have still : Part.total parts ≤ (stream ++ chunk).length := by omega
    have silent : ¬ (stream.length < Part.total parts ∧
        Part.total parts ≤ (stream ++ chunk).length) := by omega
    rw [reading_of_long parts name long, reading_of_long parts name still, answer?,
      if_neg silent, process, if_pos rfl, List.drop_append_of_le_length long,
      Conversation.applyAll_append_of_long long]
  · have short : stream.length < Part.total parts := Nat.lt_of_not_le long
    have later : reading parts name (stream ++ chunk) =
        consume (reading parts name stream).1.info (reading parts name stream).1.received
          ((reading parts name stream).2 ++ chunk) (reading parts name stream).1.pending :=
      consume_append { name } 0 stream chunk parts
    rw [process, if_neg (by simp [reading_of_short parts name short]), ← later]
    by_cases full : Part.total parts ≤ (stream ++ chunk).length
    · rw [answer?, if_pos ⟨short, full⟩, reading_of_long parts name full]
      rfl
    · rw [answer?, if_neg (fun ends => full ends.2)]
      simp [reading_of_short parts name (Nat.lt_of_not_le full)]

/-- The first chunk is read as a stream. A greeting without parts is done with it. -/
theorem process_ofParts (chunk : Octets) :
    (ofParts parts name).process chunk =
      (if Part.total parts ≤ chunk.length then some (Part.applyAll { name } parts chunk) else none,
        reading parts name chunk) := by
  have fresh : (ofParts parts name).process chunk =
      (if (reading parts name chunk).1.done then some (reading parts name chunk).1.info else none,
        reading parts name chunk) := if_neg Bool.false_ne_true
  rw [fresh]
  by_cases full : Part.total parts ≤ chunk.length
  · rw [if_pos full, reading_of_long parts name full]
    rfl
  · rw [if_neg full, (reading_of_short parts name (Nat.lt_of_not_le full)).1]
    rfl

/-- In later chunks, a greeting goes on as in a longer stream. -/
theorem processAll_reading (stream : Octets) (chunks : List Octets) :
    ((reading parts name stream).1.processAll (reading parts name stream).2 chunks).2 =
        reading parts name (stream ++ chunks.flatten) ∧
      ∀ call < chunks.length,
        ((reading parts name stream).1.processAll (reading parts name stream).2 chunks).1[call]? =
          some (answer? parts name (stream ++ (chunks.take call).flatten)
            (stream ++ (chunks.take (call + 1)).flatten)) := by
  induction chunks generalizing stream with
  | nil => simp [processAll]
  | cons chunk rest inductionHypothesis =>
      obtain ⟨last, answers⟩ := inductionHypothesis (stream ++ chunk)
      simp only [processAll, process_reading, List.flatten_cons, ← List.append_assoc]
      refine ⟨last, fun call inside => ?_⟩
      cases call with
      | zero => simp
      | succ call =>
          have other := answers call (Nat.lt_of_succ_lt_succ inside)
          simpa only [List.getElem?_cons_succ, List.take_succ_cons, List.flatten_cons,
            ← List.append_assoc] using other

omit parts name in
theorem arrived_le (chunks : List Octets) {earlier call : Nat} (before : earlier ≤ call) :
    arrived chunks earlier ≤ arrived chunks call := by
  obtain ⟨between, former⟩ := List.take_prefix_take_left (l := chunks) (Nat.succ_le_succ before)
  rw [arrived, arrived, ← former, List.flatten_append, List.length_append]
  exact Nat.le_add_right _ _

/-- The information comes with the call that completes the greeting, and it is that of the whole
stream. The state after the last chunk is that of the whole stream, too. -/
theorem processAll_ofParts (chunks : List Octets) :
    (chunks ≠ [] →
        ((ofParts parts name).processAll [] chunks).2 = reading parts name chunks.flatten) ∧
      ∀ call < chunks.length,
        ((ofParts parts name).processAll [] chunks).1[call]? =
          some (if Part.total parts ≤ arrived chunks call ∧
              ∀ earlier < call, arrived chunks earlier < Part.total parts then
            some (Part.applyAll { name } parts chunks.flatten)
          else none) := by
  cases chunks with
  | nil => simp
  | cons chunk rest =>
      obtain ⟨last, later⟩ := processAll_reading parts name chunk rest
      simp only [processAll, List.nil_append, process_ofParts]
      refine ⟨fun _ => last, fun call inside => ?_⟩
      have told {latter : List Octets} (begins : latter <+: chunk :: rest)
          (full : Part.total parts ≤ latter.flatten.length) :
          Part.applyAll { name } parts latter.flatten =
            Part.applyAll { name } parts (chunk :: rest).flatten := by
        obtain ⟨others, whole⟩ := begins
        rw [← whole, List.flatten_append, Conversation.applyAll_append_of_long full]
      -- Nothing was read before the first call, and the other calls go on from what was read.
      cases call with
      | zero =>
          have brought : ((chunk :: rest).take 1).flatten = chunk := by simp
          have whole := told (List.take_prefix 1 (chunk :: rest))
          rw [brought] at whole
          rw [List.getElem?_cons_zero, arrived, brought]
          by_cases full : Part.total parts ≤ chunk.length
          · rw [if_pos full, if_pos ⟨full, by simp⟩, whole full]
          · rw [if_neg full, if_neg (fun ends => full ends.1)]
      | succ call =>
          have whole := told (List.take_prefix (call + 2) (chunk :: rest))
          rw [List.getElem?_cons_succ, later call (Nat.lt_of_succ_lt_succ inside), answer?]
          change some (if arrived (chunk :: rest) call < Part.total parts ∧
            Part.total parts ≤ arrived (chunk :: rest) (call + 1) then _ else _) = _
          by_cases ends : arrived (chunk :: rest) call < Part.total parts ∧
              Part.total parts ≤ arrived (chunk :: rest) (call + 1)
          · have first : ∀ earlier < call + 1,
                arrived (chunk :: rest) earlier < Part.total parts := fun earlier before =>
              Nat.lt_of_le_of_lt (arrived_le _ (Nat.le_of_lt_succ before)) ends.1
            rw [if_pos ends, if_pos ⟨ends.2, first⟩, ← whole ends.2]
            rfl
          · rw [if_neg ends, if_neg fun first =>
              ends ⟨first.2 call (Nat.lt_succ_self call), first.1⟩]

end

/-- When enough octets arrive in all, there is a first call at which they have arrived. -/
theorem exists_first {chunks : List Octets} (called : chunks ≠ []) {size : Nat}
    (long : size ≤ chunks.flatten.length) :
    ∃ call < chunks.length, size ≤ arrived chunks call ∧
      ∀ earlier < call, arrived chunks earlier < size := by
  have last : size ≤ arrived chunks (chunks.length - 1) := by
    have all : chunks.length - 1 + 1 = chunks.length :=
      Nat.sub_one_add_one (List.length_eq_zero_iff.not.2 called)
    rwa [arrived, all, List.take_length]
  have enough : ∃ call, size ≤ arrived chunks call := ⟨_, last⟩
  refine ⟨Nat.find enough, ?_, Nat.find_spec enough, fun earlier before => ?_⟩
  · have bound := Nat.find_min' enough last
    have positive := List.length_pos_iff.2 called
    omega
  · exact Nat.lt_of_not_le (Nat.find_min enough before)

section

open Conversation

/-- A greeting has been given its parts and a name. -/
theorem ofSettings_eq (settings : Settings) (name : String) :
    ofSettings settings name = ofParts (ofSettings settings name).pending name := by
  unfold ofSettings
  cases settings.generation <;> rfl

/-- The settings say where the greeting ends and what it tells. -/
theorem processAll_ofSettings (settings : Settings) (name : String) (chunks : List Octets) :
    (chunks ≠ [] → ((ofSettings settings name).processAll [] chunks).2 =
        reading (ofSettings settings name).pending name chunks.flatten) ∧
      ∀ call < chunks.length,
        ((ofSettings settings name).processAll [] chunks).1[call]? =
          some (if (Layout.ofSettings settings).size ≤ arrived chunks call ∧
              ∀ earlier < call, arrived chunks earlier < (Layout.ofSettings settings).size then
            some ((Layout.ofSettings settings).read name chunks.flatten)
          else none) := by
  have parts := processAll_ofParts (ofSettings settings name).pending name chunks
  rwa [← ofSettings_eq, total_ofSettings, applyAll_ofSettings] at parts

theorem some_mem_processAll (settings : Settings) (name : String) {chunks : List Octets}
    (called : chunks ≠ []) (long : (Layout.ofSettings settings).size ≤ chunks.flatten.length) :
    some ((Layout.ofSettings settings).read name chunks.flatten) ∈
      ((ofSettings settings name).processAll [] chunks).1 := by
  obtain ⟨call, inside, first⟩ := exists_first called long
  have told := (processAll_ofSettings settings name chunks).2 call inside
  rw [if_pos first] at told
  exact List.mem_of_getElem? told

/-- Each octet that arrived was counted or is in the buffer. A greeting that is done has counted its
parts and left what is behind them. -/
theorem state_processAll (settings : Settings) (name : String) (chunks : List Octets) :
    let layout := Layout.ofSettings settings
    let result := (ofSettings settings name).processAll [] chunks
    let state := result.2.1
    let buffer := result.2.2
    state.received + buffer.length = chunks.flatten.length ∧
      (state.done = true ↔ chunks ≠ [] ∧ layout.size ≤ chunks.flatten.length) ∧
      (state.done = true → state.received = layout.size ∧
        buffer = chunks.flatten.drop layout.size) := by
  intro layout result state buffer
  have total : Part.total (ofSettings settings name).pending = layout.size :=
    total_ofSettings settings name
  by_cases called : chunks = []
  · have fresh : result.2 = (ofParts (ofSettings settings name).pending name, []) := by
      simp only [result, called, processAll, ← ofSettings_eq]
    have nothing : state.received + buffer.length = 0 :=
      congrArg (fun last => last.1.received + last.2.length) fresh
    have undone := Bool.eq_false_iff.1 (congrArg (fun last => last.1.done) fresh)
    refine ⟨?_, iff_of_false undone (fun done => done.1 called), fun done => absurd done undone⟩
    rw [nothing, called]
    rfl
  · have last : result.2 = reading _ name chunks.flatten :=
      (processAll_ofSettings settings name chunks).1 called
    by_cases long : layout.size ≤ chunks.flatten.length
    · rw [reading_of_long _ name (total.trans_le long), total] at last
      have counted : state.received = layout.size := congrArg (fun last => last.1.received) last
      have left : buffer = chunks.flatten.drop layout.size := congrArg Prod.snd last
      refine ⟨?_, iff_of_true (congrArg (fun last => last.1.done) last) ⟨called, long⟩,
        fun _ => ⟨counted, left⟩⟩
      rw [counted, left, List.length_drop]
      exact Nat.add_sub_cancel' long
    · obtain ⟨waits, counted⟩ := reading_of_short (ofSettings settings name).pending name
        (total.symm ▸ Nat.lt_of_not_le long)
      rw [← last] at waits counted
      have undone := Bool.eq_false_iff.1 waits
      exact ⟨counted, iff_of_false undone (fun done => long done.2), fun done => absurd done undone⟩

/-- The header of fixed size tells what its three parts tell one by one. -/
theorem fixed_queued (name : String) {chunks others : List Octets}
    (same : others.flatten = chunks.flatten) (long : 77 ≤ chunks.flatten.length) :
    let fixed := (Greeting.fixed name).processAll [] chunks
    let queued := (Greeting.queued true true true name).processAll [] others
    (∃ info, some info ∈ fixed.1 ∧ some info ∈ queued.1) ∧
      fixed.2.2 = chunks.flatten.drop 77 ∧ queued.2.2 = chunks.flatten.drop 77 := by
  intro fixed queued
  have called {chunks : List Octets} (long : 77 ≤ chunks.flatten.length) : chunks ≠ [] := by
    rintro rfl
    cases long
  have longer : 77 ≤ others.flatten.length := by rwa [same]
  let legacy : Settings := { generation := .legacy }
  obtain ⟨-, ended, left⟩ := state_processAll legacy name chunks
  obtain ⟨-, stopped, kept⟩ := state_processAll {} name others
  refine ⟨⟨_, some_mem_processAll legacy name (called long) long, ?_⟩, ?_, ?_⟩
  · have told := some_mem_processAll {} name (called longer) longer
    rwa [same] at told
  · exact (left (ended.2 ⟨called long, long⟩)).2
  · rw [← same]
    exact (kept (stopped.2 ⟨called longer, longer⟩)).2

/-- A greeting tells its information once, with the first call at which its parts are there, and it
is that of the whole stream. Each octet that arrived was counted or is in the buffer. When it is
done, it has counted its parts, the buffer holds what is behind them, and it does nothing any more.
The header of fixed size and the three parts tell the same and leave the same, however their stream
is divided. -/
theorem processAll_once (settings : Settings) (name : String) (chunks : List Octets) :
    let layout := Layout.ofSettings settings
    let stream := chunks.flatten
    let result := (ofSettings settings name).processAll [] chunks
    let answers := result.1
    let state := result.2.1
    let buffer := result.2.2
    (∀ call < chunks.length, answers[call]? =
        some (if layout.size ≤ arrived chunks call ∧
            ∀ earlier < call, arrived chunks earlier < layout.size then
          some (layout.read name stream)
        else none)) ∧
      state.received + buffer.length = stream.length ∧
      (state.done = true ↔ chunks ≠ [] ∧ layout.size ≤ stream.length) ∧
      (state.done = true → state.received = layout.size ∧ buffer = stream.drop layout.size ∧
        ∀ more, state.process more = (none, state, more)) ∧
      ∀ others : List Octets, others.flatten = stream → 77 ≤ stream.length →
        let fixed := (Greeting.fixed name).processAll [] chunks
        let queued := (Greeting.queued true true true name).processAll [] others
        (∃ info, some info ∈ fixed.1 ∧ some info ∈ queued.1) ∧
          fixed.2.2 = stream.drop 77 ∧ queued.2.2 = stream.drop 77 := by
  intro layout stream result answers state buffer
  obtain ⟨counted, done, left⟩ := state_processAll settings name chunks
  refine ⟨(processAll_ofSettings settings name chunks).2, counted, done, fun ended => ?_,
    fun others same long => fixed_queued name same long⟩
  obtain ⟨received, rest⟩ := left ended
  exact ⟨received, rest, fun more => if_pos ended⟩

/-- The header comes in one chunk, and the three parts come in two. -/
theorem processAll_once_divided :
    let stream := Octets.zeros 1 ++ Octets.ascii "phone" ++ Octets.zeros 60 ++ [9] ++
      Octets.zeros 10 ++ [1, 2, 3]
    let fixed := (Greeting.fixed "serial").processAll [] [stream]
    let queued := (Greeting.queued true true true "serial").processAll []
      [stream.take 70, stream.drop 70]
    (∃ info, some info ∈ fixed.1 ∧ some info ∈ queued.1) ∧
      fixed.2.2 = stream.drop 77 ∧ queued.2.2 = stream.drop 77 := by
  intro stream
  exact (processAll_once {} "serial" [stream]).2.2.2.2 [stream.take 70, stream.drop 70]
    (by decide) (by decide)

end

end Greeting

end Screencast.Recorder
