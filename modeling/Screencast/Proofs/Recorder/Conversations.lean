/-
This file shows that the division of a recorder's stream into reads does not matter. The greeting
ends at an octet that the settings fix, and the video begins behind it, wherever the reads end.
-/

import Screencast.Proofs.Recorder.Groups
import Screencast.Proofs.Text.Lines
import Screencast.Proofs.Text.Utf8
import Screencast.Recorder.Conversation

namespace Screencast.Recorder

namespace Part

/-- These parts have so many octets together. -/
def total : List Part → Nat
  | [] => 0
  | part :: rest => part.size + total rest

@[simp] theorem total_nil : total [] = 0 := rfl

@[simp] theorem total_cons (part : Part) (rest : List Part) :
    total (part :: rest) = part.size + total rest := rfl

/-- This is what parts tell that are all there. -/
def applyAll (info : DeviceInfo) : List Part → Octets → DeviceInfo
  | [], _ => info
  | part :: rest, octets =>
      applyAll (part.apply info (octets.take part.size)) rest (octets.drop part.size)

end Part

namespace Greeting

/-- A buffer with all parts is read up to their end. -/
theorem consume_of_long {parts : List Part} {buffer : Octets}
    (long : Part.total parts ≤ buffer.length) (info : DeviceInfo) (received : Nat) :
    consume info received buffer parts =
      ({ pending := [], info := Part.applyAll info parts buffer,
         received := received + Part.total parts, done := true },
        buffer.drop (Part.total parts)) := by
  induction parts generalizing info received buffer with
  | nil => rfl
  | cons part rest inductionHypothesis =>
      rw [Part.total_cons] at long
      have whole : ¬ buffer.length < part.size := by omega
      have others : Part.total rest ≤ (buffer.drop part.size).length := by
        rw [List.length_drop]
        omega
      rw [consume, if_neg whole, inductionHypothesis others, List.drop_drop, Nat.add_assoc]
      rfl

/-- A shorter buffer is read up to the end of a part. The octets behind it wait, and the parts that
are left tell of them what all parts would have told. -/
theorem consume_of_short {parts : List Part} {buffer : Octets}
    (short : buffer.length < Part.total parts) (info : DeviceInfo) (received : Nat) :
    ∃ (count : Nat) (pending : List Part) (known : DeviceInfo),
      consume info received buffer parts =
        ({ pending, info := known, received := received + count }, buffer.drop count) ∧
      count ≤ buffer.length ∧ Part.total parts = count + Part.total pending ∧
      ∀ more, Part.applyAll info parts (buffer ++ more) =
        Part.applyAll known pending (buffer.drop count ++ more) := by
  induction parts generalizing info received buffer with
  | nil => exact absurd short (Nat.not_lt_zero _)
  | cons part rest inductionHypothesis =>
      by_cases cut : buffer.length < part.size
      · refine ⟨0, part :: rest, info, ?_, Nat.zero_le _, (Nat.zero_add _).symm, fun _ => rfl⟩
        rw [consume, if_pos cut]
        rfl
      · have others : (buffer.drop part.size).length < Part.total rest := by
          rw [Part.total_cons] at short
          rw [List.length_drop]
          omega
        obtain ⟨count, pending, known, consumed, inside, left, same⟩ :=
          inductionHypothesis others (part.apply info (buffer.take part.size))
            (received + part.size)
        rw [List.length_drop] at inside
        refine ⟨part.size + count, pending, known, ?_, by omega, ?_, ?_⟩
        · rw [consume, if_neg cut, consumed, List.drop_drop, Nat.add_assoc]
        · rw [Part.total_cons, left, Nat.add_assoc]
        · intro more
          have inFront : part.size ≤ buffer.length := by omega
          rw [Part.applyAll, List.take_append_of_le_length inFront,
            List.drop_append_of_le_length inFront, same, List.drop_drop]

end Greeting

namespace Conversation

/-- The reads held the whole greeting and left the octets behind it, or they were too few. -/
def Greeted.Fits (greeting : Greeting) (stream : Octets) : Greeted → Prop
  | .complete info buffer reads =>
      Part.total greeting.pending ≤ stream.length ∧
        info = Part.applyAll greeting.info greeting.pending stream ∧
        buffer ++ reads.flatten = stream.drop (Part.total greeting.pending)
  | .short received =>
      stream.length < Part.total greeting.pending ∧ received = greeting.received + stream.length

/-- What fits the rest of a greeting and the rest of its stream fits the whole of both. -/
theorem Greeted.Fits.whole {greeting next : Greeting} {stream : Octets} {count : Nat}
    (inside : count ≤ stream.length)
    (counted : next.received = greeting.received + count)
    (left : Part.total greeting.pending = count + Part.total next.pending)
    (same : Part.applyAll greeting.info greeting.pending stream =
      Part.applyAll next.info next.pending (stream.drop count))
    {greeted : Greeted} (fits : greeted.Fits next (stream.drop count)) :
    greeted.Fits greeting stream := by
  cases greeted with
  | complete info buffer reads =>
      obtain ⟨long, tells, rest⟩ := fits
      rw [List.length_drop] at long
      refine ⟨by omega, tells.trans same.symm, ?_⟩
      rw [rest, List.drop_drop, left]
  | short received =>
      obtain ⟨short, total⟩ := fits
      rw [List.length_drop] at short total
      exact ⟨by omega, by omega⟩

/-- A buffer that holds the greeting ends it, whatever is read later. -/
theorem readGreeting_of_long {greeting : Greeting} (waits : greeting.done = false)
    {buffer : Octets} (long : Part.total greeting.pending ≤ buffer.length)
    (reads : List Octets) :
    readGreeting greeting buffer reads =
      .complete (Part.applyAll greeting.info greeting.pending buffer)
        (buffer.drop (Part.total greeting.pending)) reads := by
  have consumed := Greeting.consume_of_long long greeting.info greeting.received
  cases reads with
  | nil => simp [readGreeting, Greeting.process, waits, consumed]
  | cons read rest => simp [readGreeting, Greeting.process, waits, consumed]

/-- The octets behind the parts tell nothing. -/
theorem applyAll_append_of_long {parts : List Part} {buffer : Octets}
    (long : Part.total parts ≤ buffer.length) (info : DeviceInfo) (more : Octets) :
    Part.applyAll info parts (buffer ++ more) = Part.applyAll info parts buffer := by
  induction parts generalizing info buffer with
  | nil => rfl
  | cons part rest inductionHypothesis =>
      rw [Part.total_cons] at long
      have inFront : part.size ≤ buffer.length := by omega
      have others : Part.total rest ≤ (buffer.drop part.size).length := by
        rw [List.length_drop]
        omega
      rw [Part.applyAll, Part.applyAll, List.take_append_of_le_length inFront,
        List.drop_append_of_le_length inFront, inductionHypothesis others]

/-- A greeting is read from a stream as if the stream came at once. -/
theorem readGreeting_fits (greeting : Greeting) (waits : greeting.done = false)
    (buffer : Octets) (reads : List Octets) :
    (readGreeting greeting buffer reads).Fits greeting (buffer ++ reads.flatten) := by
  induction reads generalizing greeting buffer with
  | nil =>
      rw [List.flatten_nil, List.append_nil]
      by_cases long : Part.total greeting.pending ≤ buffer.length
      · rw [readGreeting_of_long waits long]
        exact ⟨long, rfl, List.append_nil _⟩
      · have short : buffer.length < Part.total greeting.pending := by omega
        obtain ⟨count, pending, known, consumed, inside, -, -⟩ :=
          Greeting.consume_of_short short greeting.info greeting.received
        simp only [readGreeting, Greeting.process, waits, consumed, Bool.false_eq_true, if_false]
        refine ⟨short, ?_⟩
        rw [List.length_drop]
        omega
  | cons read rest inductionHypothesis =>
      by_cases long : Part.total greeting.pending ≤ buffer.length
      · rw [readGreeting_of_long waits long]
        refine ⟨?_, (applyAll_append_of_long long greeting.info _).symm, ?_⟩
        · rw [List.length_append]
          omega
        · rw [List.drop_append_of_le_length long]
      · have short : buffer.length < Part.total greeting.pending := by omega
        obtain ⟨count, pending, known, consumed, inside, left, same⟩ :=
          Greeting.consume_of_short short greeting.info greeting.received
        have later := inductionHypothesis
          { pending, info := known, received := greeting.received + count } rfl
          (buffer.drop count ++ read)
        simp only [readGreeting, Greeting.process, waits, consumed, Bool.false_eq_true, if_false]
        rw [List.append_assoc, ← List.flatten_cons, ← List.drop_append_of_le_length inside] at later
        apply later.whole
        · rw [List.length_append]
          omega
        · rfl
        · exact left
        · rw [List.drop_append_of_le_length inside]
          exact same _

end Conversation

namespace Packetizer

/-- Chunks are fed like the stream that they divide. -/
theorem feedAll_flatten (chunks : List Octets) :
    ({} : Packetizer).feedAll chunks = ({} : Packetizer).feedAll [chunks.flatten] := by
  have demuxed := Demuxer.feedAll_eq_feed Demuxer.Sound.fresh chunks
  have whole := Demuxer.feedAll_eq_feed Demuxer.Sound.fresh [chunks.flatten]
  rw [List.flatten_singleton] at whole
  rw [feedAll_eq_addUnits, feedAll_eq_addUnits, demuxed, whole]

end Packetizer

namespace Conversation

/-- The stream sends its packets and ends once, however it was divided. -/
theorem events_flatten (buffer : Octets) (reads : List Octets) (ending : SocketEnd) :
    events buffer reads ending = events (buffer ++ reads.flatten) [] ending := by
  have fed := Packetizer.feedAll_flatten (buffer :: reads)
  rw [List.flatten_cons] at fed
  simp only [events, fed]

theorem events_closed (buffer : Octets) (reads : List Octets) :
    events buffer reads .closed =
      (Packetizer.packets [buffer ++ reads.flatten]).map .data ++ [.ended none] := by
  rw [events_flatten]
  rfl

/-- The name and the codec stand at fixed places of a greeting. -/
structure Layout where
  nameAt : Option Nat
  codecAt : Option Nat
  size : Nat

/-- A legacy recorder sends a dummy octet, its name and its codec. A versioned one leaves out what
it was not asked for. -/
def Layout.ofSettings (settings : Settings) : Layout :=
  match settings.generation with
  | .legacy => { nameAt := some 1, codecAt := some 65, size := 77 }
  | .versioned =>
      let dummy := if settings.sendDummy then 1 else 0
      let name := if settings.sendName then 64 else 0
      { nameAt := if settings.sendName then some dummy else none
        codecAt := if settings.sendCodec then some (dummy + name) else none
        size := dummy + name + if settings.sendCodec then 12 else 0 }

/-- A stream without a name has the serial number for a name. The codec, the width and the height
are three 32-bit numbers, which are zero where they are not sent. -/
def Layout.read (layout : Layout) (serial : String) (stream : Octets) : DeviceInfo :=
  let name := (layout.nameAt.map fun offset =>
    DeviceInfo.decodeName ((stream.drop offset).take 64)).getD ""
  let word (index : Nat) : UInt32 := (layout.codecAt.map fun offset =>
    (Octets.ofBigEndian ((stream.drop (offset + 4 * index)).take 4)).toUInt32).getD 0
  { name := if name.isEmpty then serial else name
    codec := word 0, width := word 1, height := word 2 }

/-- A field names a device by the text in front of its first zero octet, without the blanks around
it. A device whose field has no text keeps the name that is known. -/
def Names (field : Octets) (known name : String) : Prop :=
  ∃ (octets padding : Octets) (letters text : List Char),
    field = octets ++ padding ∧ 0 ∉ octets ∧ (∀ first, padding.head? = some first → first = 0) ∧
      Text.Utf8.Decodes octets letters ∧ Text.Padded text letters ∧ Text.Tight text ∧
      name = if text = [] then known else String.ofList text

/-- Four octets spell a number, the most significant one first. -/
def Spells (octets : Octets) (value : UInt32) : Prop :=
  ∃ first second third fourth : UInt8, octets = [first, second, third, fourth] ∧
    value.toNat = ((first.toNat * 256 + second.toNat) * 256 + third.toNat) * 256 + fourth.toNat

/-- A stream tells about the device what stands at the places of the layout. What is not sent is
zero, and the name is the serial number then. -/
structure Layout.Tells (layout : Layout) (serial : String) (stream : Octets) (info : DeviceInfo) :
    Prop where
  named : ∀ offset, layout.nameAt = some offset →
    Names ((stream.drop offset).take 64) serial info.name
  unnamed : layout.nameAt = none → info.name = serial
  sized : ∀ offset, layout.codecAt = some offset →
    Spells ((stream.drop offset).take 4) info.codec ∧
      Spells ((stream.drop (offset + 4)).take 4) info.width ∧
      Spells ((stream.drop (offset + 8)).take 4) info.height
  unsized : layout.codecAt = none → info.codec = 0 ∧ info.width = 0 ∧ info.height = 0

theorem names_decodeName (field : Octets) (known : String) :
    Names field known (if (DeviceInfo.decodeName field).isEmpty then known
      else DeviceInfo.decodeName field) := by
  let octets := field.takeWhile (· ≠ 0)
  let letters := (Text.Utf8.decodeLossy octets).toList
  refine ⟨octets, field.dropWhile (· ≠ 0), letters, Text.trimBlanks letters,
    List.takeWhile_append_dropWhile.symm, ?_, ?_, Text.Utf8.decodes_iff.2 rfl,
    Text.padded_trimBlanks letters, Text.tight_trimBlanks letters, ?_⟩
  · intro member
    simpa using List.mem_takeWhile_imp member
  · intro first found
    have stop := List.head?_dropWhile_not (· ≠ 0) field
    rw [found] at stop
    simpa using stop
  · have decoded : DeviceInfo.decodeName field = String.ofList (Text.trimBlanks letters) := rfl
    simp only [decoded, String.isEmpty_iff, String.ofList_eq_empty_iff]

theorem spells_ofBigEndian {octets : Octets} (length : octets.length = 4) :
    Spells octets (Octets.ofBigEndian octets).toUInt32 := by
  obtain ⟨first, second, third, fourth, rfl⟩ := List.length_eq_four.1 length
  refine ⟨first, second, third, fourth, rfl, ?_⟩
  have bounds := And.intro (UInt8.toNat_lt first) (And.intro (UInt8.toNat_lt second)
    (And.intro (UInt8.toNat_lt third) (UInt8.toNat_lt fourth)))
  simp [Octets.ofBigEndian, Octets.ofLittleEndian]
  omega

/-- The parts stand inside the greeting. -/
theorem inside_ofSettings (settings : Settings) {offset : Nat}
    (found : (Layout.ofSettings settings).codecAt = some offset) :
    offset + 12 ≤ (Layout.ofSettings settings).size := by
  unfold Layout.ofSettings at found ⊢
  cases generation : settings.generation with
  | legacy =>
      rw [generation] at found
      cases found
      exact Nat.le_refl 77
  | versioned =>
      rw [generation] at found
      cases codec : settings.sendCodec with
      | false => simp [codec] at found
      | true =>
          simp only [codec, if_true, Option.some.injEq] at found
          simp only [if_true]
          omega

/-- What is read of a whole greeting is what it tells. -/
theorem tells_read (settings : Settings) (serial : String) {stream : Octets}
    (long : (Layout.ofSettings settings).size ≤ stream.length) :
    (Layout.ofSettings settings).Tells serial stream
      ((Layout.ofSettings settings).read serial stream) where
  named offset found := by
    have named := names_decodeName ((stream.drop offset).take 64) serial
    simpa only [Layout.read, found, Option.map_some, Option.getD_some] using named
  unnamed found := by simp [Layout.read, found]
  sized offset found := by
    have inside := inside_ofSettings settings found
    have word (index : Nat) (last : index < 3) :
        Spells ((stream.drop (offset + 4 * index)).take 4)
          (Octets.ofBigEndian ((stream.drop (offset + 4 * index)).take 4)).toUInt32 := by
      apply spells_ofBigEndian
      rw [List.length_take, List.length_drop]
      omega
    simp only [Layout.read, found]
    exact ⟨word 0 (by omega), word 1 (by omega), word 2 (by omega)⟩
  unsized found := by simp [Layout.read, found]

theorem total_ofSettings (settings : Settings) (serial : String) :
    Part.total (Greeting.ofSettings settings serial).pending = (Layout.ofSettings settings).size := by
  unfold Greeting.ofSettings Layout.ofSettings
  cases settings.generation with
  | legacy => rfl
  | versioned =>
      cases settings.sendDummy <;> cases settings.sendName <;> cases settings.sendCodec <;> rfl

theorem withName_eq (info : DeviceInfo) (field : Octets) :
    info.withName field =
      { info with name :=
          if (DeviceInfo.decodeName field).isEmpty then info.name
          else DeviceInfo.decodeName field } := by
  rw [DeviceInfo.withName]
  split <;> rfl

theorem applyAll_ofSettings (settings : Settings) (serial : String) (stream : Octets) :
    Part.applyAll { name := serial } (Greeting.ofSettings settings serial).pending stream =
      (Layout.ofSettings settings).read serial stream := by
  unfold Greeting.ofSettings Layout.ofSettings
  cases settings.generation with
  | legacy =>
      simp [Greeting.fixed, Greeting.ofParts, Part.applyAll, Part.apply, Part.size, Layout.read,
        withName_eq, DeviceInfo.withCodec, List.drop_take, List.take_take, -List.drop_one]
  | versioned =>
      cases settings.sendDummy <;> cases settings.sendName <;> cases settings.sendCodec <;>
        simp [Greeting.queued, Greeting.ofParts, Part.applyAll, Part.apply, Part.size, Layout.read,
          withName_eq, DeviceInfo.withCodec, List.drop_take, List.take_take, -List.drop_one]

/-- The greeting ends where the settings say, or the stream ends before that. -/
theorem converse_eq (settings : Settings) (serial : String) (reads : List Octets)
    (ending : SocketEnd) :
    converse settings serial reads ending =
      if reads.flatten.length < (Layout.ofSettings settings).size then
        .error (shortGreeting reads.flatten.length settings.greetingLimit ending)
      else
        .ok ((Layout.ofSettings settings).read serial reads.flatten,
          events (reads.flatten.drop (Layout.ofSettings settings).size) [] ending) := by
  have waits : (Greeting.ofSettings settings serial).done = false := by
    unfold Greeting.ofSettings
    cases settings.generation <;> rfl
  have fresh : (Greeting.ofSettings settings serial).info = { name := serial } ∧
      (Greeting.ofSettings settings serial).received = 0 := by
    unfold Greeting.ofSettings
    cases settings.generation <;> exact ⟨rfl, rfl⟩
  have fits := readGreeting_fits (Greeting.ofSettings settings serial) waits [] reads
  rw [List.nil_append] at fits
  rw [converse]
  cases greeted : readGreeting (Greeting.ofSettings settings serial) [] reads with
  | complete info buffer rest =>
      rw [greeted] at fits
      obtain ⟨long, tells, video⟩ := fits
      rw [total_ofSettings] at long video
      rw [fresh.1, applyAll_ofSettings] at tells
      rw [if_neg (Nat.not_lt.2 long), tells, ← video]
      dsimp only
      rw [events_flatten]
  | short received =>
      rw [greeted] at fits
      obtain ⟨short, total⟩ := fits
      rw [total_ofSettings] at short
      rw [fresh.2, Nat.zero_add] at total
      rw [if_pos short, total]

/-- A stream is read as if it came in one read. When the recorder closes it inside the greeting, the
fault counts all its octets. Otherwise the information is what the greeting tells, and the packets of
the octets behind the greeting are sent in their order, and then one end. -/
theorem converse_division (settings : Settings) (serial : String) (reads : List Octets) :
    let stream := reads.flatten
    let layout := Layout.ofSettings settings
    (∀ ending, converse settings serial reads ending =
        converse settings serial [stream] ending) ∧
      (stream.length < layout.size →
        converse settings serial reads .closed = .error (.greeting (.closed stream.length))) ∧
      (layout.size ≤ stream.length →
        ∃ info, layout.Tells serial stream info ∧
          converse settings serial reads .closed =
            .ok (info,
              (Packetizer.packets [stream.drop layout.size]).map .data ++ [.ended none])) := by
  intro stream layout
  refine ⟨fun ending => ?_, fun short => ?_, fun long => ?_⟩
  · rw [converse_eq, converse_eq, List.flatten_singleton]
  · rw [converse_eq, if_pos short]
    rfl
  · refine ⟨layout.read serial stream, tells_read settings serial long, ?_⟩
    rw [converse_eq, if_neg (Nat.not_lt.2 long), events_closed, List.flatten_nil, List.append_nil]

/-- A read holds the end of the greeting and the beginning of a start code. The name has an ill-formed
part and blanks around it. -/
theorem converse_division_named :
    let name : Octets := [0x20, 0x50, 0xC3, 0xA9, 0xE2, 0x82, 0x21, 0x0A]
    let field := name ++ 0 :: 0x58 :: Octets.zeros 54
    let numbers : Octets := [0x68, 0x32, 0x36, 0x34, 0, 0, 4, 0x38, 0, 0, 9, 0x60]
    let reads := [9 :: field.take 20, [], field.drop 20 ++ numbers ++ [0, 0], [1, 0x65], [3]]
    let info : DeviceInfo :=
      { name := "P\u00E9\uFFFD!", codec := 0x68323634, width := 1080, height := 2400 }
    (Layout.ofSettings { generation := .legacy }).Tells "serial" reads.flatten info ∧
      converse { generation := .legacy } "serial" reads .closed =
        .ok (info, [.data [0, 0, 1, 0x65, 3], .ended none]) := by
  intro name field numbers reads info
  obtain ⟨told, tells, conversed⟩ :=
    (converse_division { generation := .legacy } "serial" reads).2.2 (by decide)
  have read : converse { generation := .legacy } "serial" reads .closed =
      .ok (info, [.data [0, 0, 1, 0x65, 3], .ended none]) := by decide +kernel
  have same : told = info := congrArg Prod.fst (Except.ok.inj (conversed.symm.trans read))
  exact ⟨same ▸ tells, read⟩

end Conversation

end Screencast.Recorder
