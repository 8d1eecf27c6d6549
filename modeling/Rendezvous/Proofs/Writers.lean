/-
# What a writer sends

A writer that is not stopped sends all the texts it was handed, in order, then control
messages up to a close frame, and ends with that: exactly one close frame, and nothing after
it. A writer that is stopped before it is done has sent a beginning of the same, and who has
got a close frame has got all of it. Pings change nothing of what clients read.
-/

import Rendezvous.Proofs.History
import Rendezvous.Server.Basic

namespace Rendezvous

namespace Control

/-- What goes out on a socket when no text is left. -/
def transmissions : List Control → List Transmission
  | [] => [.close none]
  | .ping :: rest => .ping :: transmissions rest
  | .close frame :: _ => [.close (some frame)]

/-- The close frame that was asked for first, if one was. -/
def closeFrame? : List Control → Option CloseFrame
  | [] => none
  | .ping :: rest => closeFrame? rest
  | .close frame :: _ => some frame

theorem length_transmissions_le (controls : List Control) :
    (transmissions controls).length ≤ controls.length + 1 := by
  induction controls with
  | nil => exact Nat.le_refl 1
  | cons control rest ih =>
      cases control with
      | ping => exact Nat.succ_le_succ ih
      | close frame => simp [transmissions]

/-- Pings may go out, and then a close frame. -/
theorem exists_transmissions_eq (controls : List Control) : ∃ before frame,
    transmissions controls = before ++ [.close frame] ∧ ∀ other, .close other ∉ before := by
  induction controls with
  | nil => exact ⟨[], none, rfl, fun _ => List.not_mem_nil⟩
  | cons control rest ih =>
      cases control with
      | ping =>
          obtain ⟨before, frame, same, none_before⟩ := ih
          exact ⟨.ping :: before, frame, congrArg _ same, by simpa using none_before⟩
      | close frame => exact ⟨[], some frame, rfl, fun _ => List.not_mem_nil⟩

/-- Pings change nothing of what is read. -/
theorem filterMap_report? (id : ConnectionId) (controls : List Control) :
    (transmissions controls).filterMap (Transmission.report? id) =
      [.closedWith id (closeFrame? controls)] := by
  induction controls with
  | nil => rfl
  | cons control rest ih =>
      cases control with
      | ping => exact ih
      | close frame => rfl

end Control

namespace Writer

/-- What a writer sends that is not stopped before it is done. -/
def transmissions (writer : Writer) : List Transmission :=
  match writer.closedBy with
  | some frame => [.close frame]
  | none => writer.texts.map .text ++ Control.transmissions writer.controls

/-- A writer sends one thing after the other. -/
theorem transmissions_eq (writer : Writer) : writer.transmissions =
    writer.next.1 :: writer.next.2.elim [] transmissions := by
  obtain ⟨texts, controls, closedBy⟩ := writer
  cases closedBy with
  | some frame => rfl
  | none =>
      cases texts with
      | cons message rest => rfl
      | nil =>
          cases controls with
          | nil => rfl
          | cons control rest => cases control <;> rfl

/-- What a writer has sent when it is stopped is a beginning of what it would have sent. -/
theorem write_eq_take (patience : Nat) (writer : Writer) :
    writer.write patience = writer.transmissions.take patience := by
  induction patience generalizing writer with
  | zero => rfl
  | succ patience ih =>
      rw [transmissions_eq, List.take_succ_cons, write]
      cases writer.next.2 with
      | none => simp
      | some rest => simp [ih]

theorem length_transmissions_le (writer : Writer) :
    writer.transmissions.length ≤ writer.length := by
  obtain ⟨texts, controls, closedBy⟩ := writer
  cases closedBy with
  | some frame => exact Nat.le_add_left 1 _
  | none =>
      rw [transmissions, length, List.length_append, List.length_map, Nat.add_assoc]
      exact Nat.add_le_add_left (Control.length_transmissions_le controls) _

/-- A writer that is left alone comes to its end. -/
theorem write_length (writer : Writer) : writer.write writer.length = writer.transmissions := by
  rw [write_eq_take, List.take_of_length_le writer.length_transmissions_le]

/-- One close frame is sent, the last of all. -/
theorem exists_transmissions_eq (writer : Writer) : ∃ before frame,
    writer.transmissions = before ++ [.close frame] ∧ ∀ other, .close other ∉ before := by
  obtain ⟨texts, controls, closedBy⟩ := writer
  cases closedBy with
  | some frame => exact ⟨[], frame, rfl, fun _ => List.not_mem_nil⟩
  | none =>
      obtain ⟨before, frame, same, none_before⟩ := Control.exists_transmissions_eq controls
      refine ⟨texts.map .text ++ before, frame, ?_, ?_⟩
      · rw [transmissions, same, List.append_assoc]
      · simpa using none_before

/-- Who has got a close frame has got everything. -/
theorem write_eq_of_close_mem {writer : Writer} {patience : Nat} {frame : Option CloseFrame}
    (got : .close frame ∈ writer.write patience) :
    writer.write patience = writer.transmissions := by
  obtain ⟨before, last, same, none_before⟩ := writer.exists_transmissions_eq
  rw [write_eq_take] at got ⊢
  apply List.take_of_length_le
  apply Nat.le_of_not_lt
  intro short
  have within : patience ≤ before.length := by
    rw [same, List.length_append, List.length_singleton] at short
    omega
  rw [same, List.take_append_of_le_length within] at got
  exact none_before frame (List.mem_of_mem_take got)

/-- What is read of what a writer sends: the texts, and the close frame that was asked for
first. -/
theorem filterMap_report? (id : ConnectionId) (texts : List Outgoing) (controls : List Control) :
    (transmissions ⟨texts, controls, none⟩).filterMap (Transmission.report? id) =
      texts.map (.delivered id) ++ [.closedWith id (Control.closeFrame? controls)] := by
  have sent : (texts.map Transmission.text).filterMap (Transmission.report? id) =
      texts.map (.delivered id) := by
    simp [List.filterMap_map, Function.comp_def, Transmission.report?]
  rw [transmissions, List.filterMap_append, sent, Control.filterMap_report?]

end Writer

namespace Service

variable {σ : Type} (id : ConnectionId) (world : World σ)

/-- A client that is let go with a close frame gets what was on its wire, and then that. -/
theorem reports_letGo_frame (content : Option CloseFrame) :
    (letGo id (.frame content) world).2 =
      (world.wire id).outbox.map (.delivered id) ++ [.closedWith id content] := by
  cases content with
  | none | some frame =>
      show (Writer.write _ _).filterMap _ = _
      rw [Writer.write_length, Farewell.writer, Writer.filterMap_report?]
      rfl

/-- A client that has closed the stream gets its own close frame back. -/
theorem reports_letGo_echoed (content : Option CloseFrame) :
    (letGo id (.echoed content) world).2 = [.closedWith id content] := by
  show (Writer.write _ _).filterMap _ = _
  rw [Writer.write_length]
  rfl

/-- All that is reported of a socket that is let go is what its client gets. -/
theorem filterMap_letGo {β : Type} {id : ConnectionId} (farewell : Farewell) (world : World σ)
    {f : Report → Option β} (delivered : ∀ message, f (.delivered id message) = none)
    (closed : ∀ frame, f (.closedWith id frame) = none) :
    (letGo id farewell world).2.filterMap f = [] := by
  rw [letGo, List.filterMap_filterMap, List.filterMap_eq_nil_iff]
  intro transmission _
  cases transmission with
  | text message => exact delivered message
  | ping => rfl
  | close frame => exact closed frame

end Service

end Rendezvous
