/-
# What a transport promises

A transport calls the hooks of a connection in an order that it promises: a
connection is opened once, under an identifier that no connection had before it; it
speaks and ends only after it was taken in; and nothing is heard of it once it has
ended. Calls of different connections may alternate in any way. An orderly history
is one in which every call keeps the promise, given the calls before it.

The promise speaks of results, so it depends on the relay: a connection that was
turned away at its opening neither speaks nor ends.
-/

import Mathlib.Data.List.Induction
import Rendezvous.Proofs.Effects

namespace Rendezvous

variable (configuration : PeerConfiguration)

/-- The world after a history of calls on a relay that nobody has come to yet. -/
abbrev worldAfter (history : History) : World Relay :=
  (Relay.initial configuration).afterAll history

theorem worldAfter_snoc (past : History) (call : HookCall) :
    worldAfter configuration (past ++ [call]) = (worldAfter configuration past).after call :=
  World.afterAll_snoc (Relay.initial configuration) past call

/-- A connection was opened with success. -/
def Joined (past : History) (connection : Connection) : Prop :=
  ∃ line ∈ (Relay.initial configuration).transcript past,
    line.call = .opened connection ∧ line.result = .ok ()

/-- What the transport promises about a call, given the calls before it. -/
def Promised (past : History) : HookCall → Prop
  | .handshake _ => True
  | .opened connection => ∀ earlier ∈ past.connections, earlier.id ≠ connection.id
  | .message connection _ | .closed connection =>
    Joined configuration past connection ∧ .closed connection ∉ past

/-- A history in which every call was promised by what came before it. -/
inductive Orderly : History → Prop
  | nil : Orderly []
  | snoc {past : History} {call : HookCall} (before : Orderly past)
      (promised : Promised configuration past call) : Orderly (past ++ [call])

instance (past : History) (connection : Connection) :
    Decidable (Joined configuration past connection) :=
  inferInstanceAs (Decidable (∃ line ∈ (Relay.initial configuration).transcript past,
    line.call = .opened connection ∧ line.result = .ok ()))

instance (past : History) : (call : HookCall) → Decidable (Promised configuration past call)
  | .handshake _ => inferInstanceAs (Decidable True)
  | .opened connection =>
    inferInstanceAs (Decidable (∀ earlier ∈ past.connections, earlier.id ≠ connection.id))
  | .message connection _ | .closed connection =>
    inferInstanceAs
      (Decidable (Joined configuration past connection ∧ .closed connection ∉ past))

variable {configuration}

/-! ## Openings -/

theorem not_joined_nil (connection : Connection) : ¬ Joined configuration [] connection := by
  rintro ⟨line, listed, -⟩
  cases listed

theorem joined_snoc_iff {past : History} {call : HookCall} {connection : Connection} :
    Joined configuration (past ++ [call]) connection ↔
      Joined configuration past connection ∨
        call = .opened connection ∧ (worldAfter configuration past).result call = .ok () := by
  unfold Joined
  rw [World.transcript_snoc]
  simp [World.record, or_and_right, exists_or]

theorem Joined.append {past : History} {connection : Connection}
    (joined : Joined configuration past connection) (rest : History) :
    Joined configuration (past ++ rest) connection := by
  obtain ⟨line, listed, opening⟩ := joined
  refine ⟨line, ?_, opening⟩
  rw [World.transcript_append]
  exact List.mem_append_left _ listed

theorem Joined.opened_mem {past : History} {connection : Connection}
    (joined : Joined configuration past connection) : .opened connection ∈ past := by
  obtain ⟨line, listed, opening, -⟩ := joined
  rw [← World.map_call_transcript (Relay.initial configuration) past, ← opening]
  exact List.mem_map_of_mem listed

theorem Joined.mem_connections {past : History} {connection : Connection}
    (joined : Joined configuration past connection) : connection ∈ past.connections :=
  History.mem_connections_of_mem joined.opened_mem rfl

/-! ## Orderly histories -/

theorem orderly_snoc_iff {past : History} {call : HookCall} :
    Orderly configuration (past ++ [call]) ↔
      Orderly configuration past ∧ Promised configuration past call := by
  refine ⟨fun orderly => ?_, fun ⟨before, promised⟩ => .snoc before promised⟩
  generalize whole : past ++ [call] = history at orderly
  cases orderly with
  | nil => simp at whole
  | snoc before promised =>
      obtain ⟨rfl, last⟩ := List.append_inj' whole rfl
      cases last
      exact ⟨before, promised⟩

/-- What was orderly all along was orderly at every earlier point. -/
theorem Orderly.of_append {past rest : History}
    (orderly : Orderly configuration (past ++ rest)) : Orderly configuration past := by
  induction rest using List.reverseRecOn with
  | nil => simpa using orderly
  | append_singleton rest call ih =>
      rw [← List.append_assoc] at orderly
      exact ih (orderly_snoc_iff.mp orderly).1

theorem Orderly.of_prefix {past history : History} (orderly : Orderly configuration history)
    (earlier : past <+: history) : Orderly configuration past := by
  obtain ⟨rest, rfl⟩ := earlier
  exact orderly.of_append

/-- Every call of an orderly history was promised by the calls before it. -/
theorem Orderly.promised {past rest : History} {call : HookCall}
    (orderly : Orderly configuration (past ++ call :: rest)) :
    Promised configuration past call := by
  rw [List.append_cons] at orderly
  exact (orderly_snoc_iff.mp orderly.of_append).2

/-- A call is about a connection that was known before, or it opens a new one. -/
theorem Promised.known_or_opened {past : History} {call : HookCall} {connection : Connection}
    (promised : Promised configuration past call)
    (about : call.connection? = some connection) :
    connection ∈ past.connections ∨ call = .opened connection := by
  cases call with
  | handshake session => cases about
  | opened other =>
      cases about
      exact .inr rfl
  | message other text | closed other =>
      cases about
      exact .inl promised.1.mem_connections

/-- Connections are told apart by their identifiers. -/
theorem Orderly.eq_of_id {history : History} (orderly : Orderly configuration history)
    {first second : Connection} (one : first ∈ history.connections)
    (two : second ∈ history.connections) (same : first.id = second.id) : first = second := by
  induction orderly with
  | nil => cases one
  | @snoc past call before promised ih =>
      rw [History.connections_append, List.mem_append] at one two
      have split {connection : Connection} (listed : connection ∈ History.connections [call]) :
          connection ∈ past.connections ∨ call = .opened connection := by
        obtain ⟨made, only, about⟩ := List.mem_filterMap.mp listed
        rw [List.mem_singleton] at only
        exact promised.known_or_opened (only ▸ about)
      rcases one.elim Or.inl split with firstKnown | rfl <;>
        rcases two.elim Or.inl split with secondKnown | opening
      · exact ih firstKnown secondKnown
      · subst opening
        exact absurd same (promised first firstKnown)
      · exact absurd same.symm (promised second secondKnown)
      · exact HookCall.opened.inj opening

/-- A history is orderly if each of its calls was promised at its place. -/
theorem orderly_iff_promised {history : History} :
    Orderly configuration history ↔
      ∀ place, (inside : place < history.length) →
        Promised configuration (history.take place) history[place] := by
  induction history using List.reverseRecOn with
  | nil => exact ⟨nofun, fun _ => .nil⟩
  | append_singleton past call ih =>
      rw [orderly_snoc_iff, ih]
      constructor
      · rintro ⟨before, promised⟩ place inside
        rw [List.length_append, List.length_singleton] at inside
        rcases Nat.lt_succ_iff_lt_or_eq.mp inside with earlier | rfl
        · rw [List.take_append_of_le_length (Nat.le_of_lt earlier),
            List.getElem_append_left earlier]
          exact before place earlier
        · simpa using promised
      · intro all
        refine ⟨fun place earlier => ?_, ?_⟩
        · have promised := all place (by simp; omega)
          rwa [List.take_append_of_le_length (Nat.le_of_lt earlier),
            List.getElem_append_left earlier] at promised
        · simpa using all past.length (by simp)

instance (history : History) : Decidable (Orderly configuration history) :=
  decidable_of_iff _ orderly_iff_promised.symm

/-! ## A history to try statements on -/

/-- The first visitor of a room says two things, one of them before the second
comes, and goes; the second is heard of again when a third is already there. -/
def reunion : History :=
  [.handshake ⟨"room"⟩, .opened (visitor 0 "room"), .message (visitor 0 "room") (notice "1"),
    .opened (visitor 1 "room"), .message (visitor 0 "room") (notice "2"),
    .closed (visitor 0 "room"), .opened (visitor 2 "room"),
    .message (visitor 1 "room") (notice "3"), .closed (visitor 1 "room")]

theorem orderly_reunion : Orderly default reunion := by decide

end Rendezvous
