/-
# Faults point at their cause

A text that is no object is refused at a place, a line and a column. The place stands for
one position in the text, and the octets up to that position, with the one that stands
there, decide all that is said of the fault: whatever follows has no part in it, and no
continuation makes the text an object again.

The reader looks at one octet after the other and never back. An octet that it refuses
stands at the position of the fault or right before it; where the text itself is refused
for its end, the position is the end.
-/

import Rendezvous.Proofs.Refusals

namespace Rendezvous

/-- Two texts have the same octet, or have both ended, at every index up to the last one
looked at. -/
def Octets.AgreeThrough (last : Nat) (text other : Octets) : Prop :=
  ∀ index ≤ last, text[index]? = other[index]?

instance (last : Nat) (text other : Octets) : Decidable (text.AgreeThrough last other) :=
  inferInstanceAs (Decidable (∀ index ≤ last, text[index]? = other[index]?))

namespace Octets.AgreeThrough

variable {last : Nat} {octet : UInt8} {text other rest : Octets}

/-- A text that agrees with one that has ended has ended too. -/
theorem eq_nil (agree : AgreeThrough last [] other) : other = [] := by
  have first : none = other[0]? := agree 0 (Nat.zero_le last)
  cases other with
  | nil => rfl
  | cons octet rest => cases first

/-- A text that agrees with one that goes on has the same octet first. -/
theorem exists_cons (agree : AgreeThrough last (octet :: rest) other) :
    ∃ later, other = octet :: later := by
  have first : some octet = other[0]? := agree 0 (Nat.zero_le last)
  cases other with
  | nil => cases first
  | cons head later =>
      cases first
      exact ⟨later, rfl⟩

theorem tail {later : Octets} (agree : AgreeThrough (last + 1) (octet :: rest) (octet :: later)) :
    AgreeThrough last rest later :=
  fun index within => agree (index + 1) (Nat.succ_le_succ within)

theorem take_eq (agree : text.AgreeThrough last other) : text.take last = other.take last := by
  apply List.ext_getElem?
  intro index
  rw [List.getElem?_take, List.getElem?_take]
  split
  · next before => exact agree index before.le
  · rfl

end Octets.AgreeThrough

namespace Json

/-! ## Where the reader stops -/

theorem Edge.index_le_position (edge : Edge) (index : Nat) : index ≤ edge.position index := by
  cases edge <;> simp [Edge.position]

theorem Edge.position_le (edge : Edge) (index : Nat) : edge.position index ≤ index + 1 := by
  cases edge <;> simp [Edge.position]

namespace Reader

variable {reader : Reader} {index : Nat} {text other : Octets} {fault : Fault}

/-- A text is refused for its end at its end, -/
theorem run_nil_eq_error : reader.run index [] = .error fault ↔
    reader.finish = .error fault.cause ∧ fault.position = index := by
  rw [run]
  cases reader.finish with
  | ok frame => simp
  | error cause =>
      constructor
      · intro failed
        cases failed
        exact ⟨rfl, rfl⟩
      · rintro ⟨same, here⟩
        cases same
        rw [← here]

/-- and for an octet at its near or at its far edge. -/
theorem run_cons_of_refused {octet : UInt8} {rest : Octets} {refusal : Refusal}
    (refused : reader.step octet = .error refusal) : reader.run index (octet :: rest) =
      .error ⟨refusal.cause, refusal.edge.position index⟩ := by
  rw [run, refused]

theorem run_cons_of_step {octet : UInt8} {rest : Octets} {next : Reader}
    (stepped : reader.step octet = .ok next) :
    reader.run index (octet :: rest) = next.run (index + 1) rest := by
  rw [run, stepped]

/-- A fault lies in the text that is still to be read when it is found. -/
theorem position_of_run (failed : reader.run index text = .error fault) :
    index ≤ fault.position ∧ fault.position ≤ index + text.length := by
  induction text generalizing reader index with
  | nil =>
      have here := (run_nil_eq_error.mp failed).2
      exact ⟨here.ge, here.le⟩
  | cons octet rest ih =>
      cases stepped : reader.step octet with
      | ok next =>
          rw [run_cons_of_step stepped] at failed
          have within := ih failed
          rw [List.length_cons]
          omega
      | error refusal =>
          rw [run_cons_of_refused stepped] at failed
          cases failed
          have near := refusal.edge.index_le_position index
          have far := refusal.edge.position_le index
          have longer : index + 1 ≤ index + (octet :: rest).length := by simp
          exact ⟨near, far.trans longer⟩

/-- A fault is decided by what stands up to its position. -/
theorem run_eq_error_of_agree (failed : reader.run index text = .error fault)
    (agree : text.AgreeThrough (fault.position - index) other) :
    reader.run index other = .error fault := by
  induction text generalizing reader index other with
  | nil =>
      rw [agree.eq_nil]
      exact failed
  | cons octet rest ih =>
      obtain ⟨later, rfl⟩ := agree.exists_cons
      cases stepped : reader.step octet with
      | ok next =>
          rw [run_cons_of_step stepped] at failed ⊢
          -- One octet more has been read, so one fewer is left before the position.
          have beyond : index + 1 ≤ fault.position := (position_of_run failed).1
          have left : fault.position - index = fault.position - (index + 1) + 1 := by omega
          rw [left] at agree
          exact ih failed agree.tail
      | error refusal =>
          rw [run_cons_of_refused stepped] at failed ⊢
          exact failed

end Reader

/-! ## Places -/

namespace Place

variable {text other : Octets} {position later : Nat}

/-- A place comes before another in reading order. -/
def Precedes (first second : Place) : Prop :=
  first.line < second.line ∨ first.line = second.line ∧ first.column < second.column

theorem Precedes.trans {first second third : Place} (earlier : first.Precedes second)
    (later : second.Precedes third) : first.Precedes third := by
  unfold Precedes at *
  omega

theorem Precedes.ne {first second : Place} (earlier : first.Precedes second) :
    first ≠ second := by
  intro same
  subst same
  unfold Precedes at earlier
  omega

/-- An octet moves the place on in its line, or to the beginning of the next. -/
theorem of_succ (inside : position < text.length) : of text (position + 1) =
    if text[position] = 10 then ⟨(of text position).line + 1, 0⟩
    else ⟨(of text position).line, (of text position).column + 1⟩ := by
  unfold of
  rw [List.take_succ_eq_append_getElem inside]
  generalize text.take position = passed, text[position] = octet
  split
  · next newline => simp [newline, Nat.add_assoc]
  · next same => simp [same]

theorem precedes_of_succ (inside : position < text.length) :
    (of text position).Precedes (of text (position + 1)) := by
  rw [of_succ inside]
  unfold Precedes
  split <;> simp

theorem precedes_of_lt (before : position < later) (inside : later ≤ text.length) :
    (of text position).Precedes (of text later) := by
  induction later, before using Nat.le_induction with
  | base => exact precedes_of_succ inside
  | succ later _ ih => exact (ih (by omega)).trans (precedes_of_succ inside)

/-- A place in a text is one position. -/
theorem of_injOn : Set.InjOn (of text) {position | position ≤ text.length} := by
  intro first firstInside second secondInside same
  by_contra apart
  cases Nat.lt_or_gt_of_ne apart with
  | inl before => exact (precedes_of_lt before secondInside).ne same
  | inr after => exact (precedes_of_lt after firstInside).ne same.symm

theorem of_congr (agree : text.AgreeThrough position other) :
    of text position = of other position := by
  rw [of, of, agree.take_eq]

end Place

end Json

/-! ## What a sender is told -/

namespace Request

/-- The error that is reported of a text that is no object. -/
def refusal? (text : Octets) : Option SignalingError :=
  match parse text with
  | .error fault => some (.protocol fault.cause (.of text fault.position))
  | .ok _ => none

variable {text : Octets} {error : SignalingError} {fault : Json.Fault}

theorem refusal?_of_fault (failed : parse text = .error fault) :
    refusal? text = some (.protocol fault.cause (.of text fault.position)) := by
  rw [refusal?, failed]

theorem exists_fault_of_refusal? (refused : refusal? text = some error) :
    ∃ fault, parse text = .error fault ∧
      error = .protocol fault.cause (.of text fault.position) := by
  unfold refusal? at refused
  split at refused
  · next fault failed =>
    cases refused
    exact ⟨fault, failed, rfl⟩
  · cases refused

theorem parse_eq_error : parse text = .error fault ↔ Json.Frame.read text = .error fault := by
  unfold parse
  cases Json.Frame.read text with
  | ok frame => exact iff_of_false nofun nofun
  | error other => simp [Except.map]

end Request

/-- What it means for a text to be refused with an error. -/
structure IsRefused (text : Octets) (error : SignalingError) : Prop where
  reported : Request.refusal? text = some error
  no_object : ¬ ∃ members, text ∈ Json.objectTexts members
  /-- Whoever sends the text, and whenever, is told just that. -/
  told : ∀ (world : World Relay) (connection : Connection),
    world.result (.message connection text) = .error error

theorem isRefused_of_refusal? {text : Octets} {error : SignalingError}
    (refused : Request.refusal? text = some error) : IsRefused text error := by
  obtain ⟨fault, failed, rfl⟩ := Request.exists_fault_of_refusal? refused
  constructor
  case reported => exact refused
  case no_object =>
    rw [← Request.exists_parse_iff, failed]
    exact fun ⟨_, parsed⟩ => nomatch parsed
  case told => exact fun world connection => (Relay.message_of_fault connection failed).result

/-! ## The law of faults -/

/-- What a cause and a place, reported of a text, say about it. -/
structure PointsAtCause (text : Octets) (cause : Json.Cause) (place : Json.Place) : Prop where
  /-- The place is that of one position, in the text or at its end. -/
  position : ∃! position, position ≤ text.length ∧ place = .of text position
  /-- Every text that agrees up to that position and at it is refused with the same words,
  whatever follows there. -/
  decided : ∀ position ≤ text.length, place = .of text position →
    ∀ other, text.AgreeThrough position other → IsRefused other (.protocol cause place)

/-- What is reported of a refused text is decided at the place that is reported. -/
theorem pointsAtCause_of_refusal {text : Octets} {cause : Json.Cause} {place : Json.Place}
    (refused : Request.refusal? text = some (.protocol cause place)) :
    PointsAtCause text cause place := by
  obtain ⟨fault, failed, reported⟩ := Request.exists_fault_of_refusal? refused
  cases reported
  have read : Json.Reader.start.run 0 text = .error fault := Request.parse_eq_error.mp failed
  have inside : fault.position ≤ text.length := by
    simpa using (Json.Reader.position_of_run read).2
  constructor
  case position =>
    refine ⟨fault.position, ⟨inside, rfl⟩, ?_⟩
    intro position here
    exact Json.Place.of_injOn here.1 inside here.2.symm
  case decided =>
    intro position within same other agree
    cases Json.Place.of_injOn inside within same
    have again : Request.parse other = .error fault :=
      Request.parse_eq_error.mpr (Json.Reader.run_eq_error_of_agree read agree)
    apply isRefused_of_refusal?
    rw [Request.refusal?_of_fault again, Json.Place.of_congr agree]

/-- A frame whose second line has a misspelt escape. -/
def misspelt : Octets := .ofText "\x7b\"data\":\n \"\\u12G4\", \"method\": 1\x7d"

/-- The frame up to the place of its fault and the octet there, and then something else. -/
def misspeltAnew : Octets := misspelt.take 18 ++ .ofText "?!"

theorem pointsAtCause_misspelt :
    Request.refusal? misspelt = some (.protocol .invalidEscape ⟨2, 8⟩) ∧
      misspelt.AgreeThrough 17 misspeltAnew ∧
      IsRefused misspeltAnew (.protocol .invalidEscape ⟨2, 8⟩) := by
  have refused : Request.refusal? misspelt = some (.protocol .invalidEscape ⟨2, 8⟩) := by
    decide +kernel
  have agree : misspelt.AgreeThrough 17 misspeltAnew := by decide +kernel
  have points := pointsAtCause_of_refusal refused
  exact ⟨refused, agree, points.decided 17 (by decide) (by decide) misspeltAnew agree⟩

end Rendezvous
