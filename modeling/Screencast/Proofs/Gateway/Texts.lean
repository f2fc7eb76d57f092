/-
This file says what a viewer reads out of the texts that it is sent, and how it tells them apart.
Any writer that keeps to the grammar will do.
-/

import Screencast.Gateway.Protocol
import Screencast.Proofs.Text.Json
import Mathlib.Logic.Function.Defs

namespace Screencast

open Text

/-- The description of a stream loses nothing. -/
theorem Broadcast.StartInfo.json_injective : Function.Injective Broadcast.StartInfo.json := by
  intro first second same
  cases first with
  | h264 width height deviceName =>
      cases second with
      | h264 => simpa [json, UInt32.toNat_inj] using same
      | jpeg => simp [json, Format.name] at same
  | jpeg width height hints =>
      cases second with
      | h264 => simp [json, Format.name] at same
      | jpeg _ _ others =>
          cases hints
          cases others
          simpa [json, Grabber.Hints.json, UInt32.toNat_inj] using same

/-- The text of an object begins with white space or a brace. -/
theorem Text.Json.TextOf.head_object {fields : List (String × Json.Value)} {text : String}
    (spelled : Json.TextOf (.object fields) text) :
    ∃ first, text.toList.head? = some first ∧ (first = '\x7b' ∨ Json.isSpace first = true) := by
  cases spelled with
  | @whole before letters behind content above below written =>
      rw [content]
      cases before with
      | cons first before => exact ⟨first, rfl, .inr (above first List.mem_cons_self)⟩
      | nil => cases written <;> exact ⟨'\x7b', rfl, .inl rfl⟩

namespace Gateway

/-- The running gateway uses the compact writer. -/
theorem startMessage_compact (info : Broadcast.StartInfo) :
    startMessage .compact info = .ok (startText info) := rfl

section Writers

variable {writer : Json.Writer}

/-- A stream is always announced, and the description can be read behind the word. -/
theorem startMessage_read (conforms : writer.Conforms) (info : Broadcast.StartInfo) :
    ∃ body, startMessage writer info = .ok ("start " ++ body) ∧
      Json.read? body = some info.json := by
  obtain ⟨body, serialized, spelled⟩ := conforms.serialize info.json
  exact ⟨body, by rw [startMessage, serialized], Json.read?_of_textOf spelled⟩

theorem errorMessage_read (conforms : writer.Conforms) (message : String) :
    Json.read? (errorMessage writer message) = some (.object [("error", .string message)]) :=
  Json.read?_of_textOf (conforms.display (Json.held_single _ _))

theorem startMessage_injective (conforms : writer.Conforms) :
    Function.Injective (startMessage writer) := by
  intro first second same
  obtain ⟨body, announced, read⟩ := startMessage_read conforms first
  obtain ⟨other, announcedOther, readOther⟩ := startMessage_read conforms second
  apply Broadcast.StartInfo.json_injective
  have texts : "start " ++ body = "start " ++ other := by
    rw [announced, announcedOther] at same
    exact Except.ok.inj same
  rw [(String.append_right_inj _).1 texts, readOther] at read
  exact (Option.some.inj read).symm

theorem errorMessage_injective (conforms : writer.Conforms) :
    Function.Injective (errorMessage writer) := by
  intro first second same
  have read := errorMessage_read conforms first
  rw [same, errorMessage_read conforms] at read
  simpa using (Option.some.inj read).symm

/-- The first letter tells the text of a failure from an announcement and from the ping. -/
theorem head_errorMessage_ne (conforms : writer.Conforms) (message : String) {letter : Char}
    (other : letter = 's' ∨ letter = 'p') :
    (errorMessage writer message).toList.head? ≠ some letter := by
  have held := Json.held_single "error" message
  obtain ⟨first, head, brace | space⟩ := (conforms.display held).head_object
  · rw [errorMessage, head, brace]
    rcases other with rfl | rfl <;> decide
  · rw [errorMessage, head]
    intro same
    obtain rfl := Option.some.inj same
    rcases other with rfl | rfl <;> exact absurd space (by decide)

/-- A viewer reads the description of a stream behind its word, and the text of a failure as the
only field of an object. It confuses no two of these texts, nor any of them with the ping. -/
theorem texts_read (conforms : writer.Conforms) :
    ((∀ (width height : UInt32) (deviceName : String), ∃ body,
        startMessage writer (.h264 width height deviceName) = .ok ("start " ++ body) ∧
          Json.read? body = some (.object [("type", .string "h264"),
            ("width", .number width.toNat), ("height", .number height.toNat),
            ("deviceName", .string deviceName)])) ∧
      ∀ (width height : UInt32) (hints : Grabber.Hints), ∃ body,
        startMessage writer (.jpeg width height hints) = .ok ("start " ++ body) ∧
          Json.read? body = some (.object [("type", .string "jpeg"),
            ("width", .number width.toNat), ("height", .number height.toNat),
            ("quirks", .object [("dumb", .boolean hints.dumb),
              ("alwaysUpright", .boolean hints.alwaysUpright), ("tear", .boolean hints.tear)])])) ∧
      (∀ message, Json.read? (errorMessage writer message) =
        some (.object [("error", .string message)])) ∧
      (Function.Injective (startMessage writer) ∧ Function.Injective (errorMessage writer)) ∧
      (∀ info message, startMessage writer info ≠ .ok (errorMessage writer message)) ∧
      (∀ info, startMessage writer info ≠ .ok ping) ∧
      ∀ message, errorMessage writer message ≠ ping := by
  refine ⟨⟨?_, ?_⟩, errorMessage_read conforms,
    ⟨startMessage_injective conforms, errorMessage_injective conforms⟩, ?_, ?_, ?_⟩
  · intro width height deviceName
    exact startMessage_read conforms (.h264 width height deviceName)
  · intro width height hints
    exact startMessage_read conforms (.jpeg width height hints)
  · intro info message same
    obtain ⟨body, announced, -⟩ := startMessage_read conforms info
    rw [announced] at same
    apply head_errorMessage_ne conforms message (.inl rfl)
    rw [← Except.ok.inj same]
    simp
  · intro info same
    obtain ⟨body, announced, -⟩ := startMessage_read conforms info
    rw [announced] at same
    have letters := congrArg (fun text => text.toList.head?) (Except.ok.inj same)
    simp [ping] at letters
  · intro message same
    apply head_errorMessage_ne conforms message (.inr rfl)
    rw [same]
    decide

/-- A name may hold what must be escaped. -/
theorem texts_read_escaped :
    let name := "7\" \\ \n"
    Json.Writer.compact.Conforms ∧
      (∃ body, startText (.h264 1080 2340 name) = "start " ++ body ∧
        Json.read? body = some (.object [("type", .string "h264"), ("width", .number 1080),
          ("height", .number 2340), ("deviceName", .string name)])) ∧
      Json.read? (failureText name) = some (.object [("error", .string name)]) ∧
      failureText name ≠ ping := by
  intro name
  obtain ⟨⟨described, -⟩, failed, -, -, -, distinct⟩ := texts_read Json.compact_conforms
  obtain ⟨body, announced, read⟩ := described 1080 2340 name
  rw [startMessage_compact] at announced
  exact ⟨Json.compact_conforms, ⟨body, Except.ok.inj announced, read⟩, failed name, distinct name⟩

end Writers

end Gateway

end Screencast
