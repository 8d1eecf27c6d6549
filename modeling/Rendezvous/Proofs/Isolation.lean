/-
# Sessions do not hear of each other

What happens in one session is decided by the calls that are made for it. The results
of these calls, the session that is stored and the wires of its connections are the
same if all calls for other sessions are left out, in whatever order calls are made and
however much the names of the sessions resemble each other.

A wire belongs to an identifier. That a connection belongs to one session is all that
is asked for: no connection of another session has the identifier of a connection of
this one.
-/

import Rendezvous.Proofs.Alike
import Rendezvous.Proofs.Unwinding

namespace Rendezvous

namespace HookCall

/-- Whether a call is made for a session. -/
def isFor (id : SessionId) (call : HookCall) : Bool := call.session = id

theorem session_of_isFor {id : SessionId} {call : HookCall} (visible : call.isFor id = true) :
    call.session = id := by
  simpa [isFor] using visible

theorem session_of_not_isFor {id : SessionId} {call : HookCall}
    (hidden : call.isFor id = false) : call.session ≠ id := by
  simpa [isFor] using hidden

end HookCall

namespace History

/-- The calls that are made for a session. -/
def madeFor (id : SessionId) (history : History) : History :=
  history.filter (HookCall.isFor id)

/-- No connection of another session has the identifier, and with it the wire, of a
connection of this one. -/
def KeepsApart (id : SessionId) (history : History) : Prop :=
  ∀ inner ∈ connections history, inner.session = id →
    ∀ outer ∈ connections history, outer.session ≠ id → outer.id ≠ inner.id

instance (id : SessionId) (history : History) : Decidable (KeepsApart id history) :=
  inferInstanceAs (Decidable (∀ inner ∈ connections history, inner.session = id →
    ∀ outer ∈ connections history, outer.session ≠ id → outer.id ≠ inner.id))

/-- The identifiers of the connections of a session. -/
def Inside (id : SessionId) (history : History) (connection : ConnectionId) : Prop :=
  ∃ inner ∈ connections history, inner.session = id ∧ inner.id = connection

end History

namespace World

/-- Two worlds look alike from inside a session. -/
structure AlikeInside (id : SessionId) (connections : List Connection)
    (left right : World Relay) : Prop where
  stored : left.sessions id = right.sessions id
  wire : ∀ connection ∈ connections, connection.session = id →
    left.wire connection.id = right.wire connection.id

/-- Members are in the session that they belong to, and they have been heard of. -/
def Homed (heard : List Connection) (world : World Relay) : Prop :=
  ∀ id, ∀ member ∈ (world.session id).members, member.session = id ∧ member ∈ heard

theorem homed_initial (configuration : PeerConfiguration) (heard : List Connection) :
    Homed heard (Relay.initial configuration) := by
  intro id member inside
  cases inside

/-- Nobody comes into a session but by being opened in it. -/
theorem Homed.after {heard : List Connection} {world : World Relay} (homed : Homed heard world)
    (sound : world.core.poisoned = false) {call : HookCall}
    (about : ∀ connection, call.connection? = some connection → connection ∈ heard) :
    Homed heard (world.after call) := by
  obtain ⟨stored, target, leaves⟩ := exists_leaves sound call
  intro id member inside
  by_cases same : id = call.session
  · subst same
    cases stored with
    | none =>
        rw [World.session, leaves.sessions, Function.update_self] at inside
        cases inside
    | some session =>
        rw [World.session, leaves.sessions, Function.update_self, Option.getD_some] at inside
        rcases leaves.known session rfl member inside with earlier | rfl
        · exact homed call.session member earlier
        · exact ⟨rfl, about member rfl⟩
  · rw [session_congr (leaves.sessions_of_ne same)] at inside
    exact homed id member inside

end World

/-- What relates a run to the run of the calls for one session, while some calls of the
whole history are still to come. -/
structure SeenInside (id : SessionId) (history : History)
    (future future' : History) (left right : World Relay) : Prop where
  alike : World.Alike (· = id) (history.Inside id) left right
  homed : World.Homed history.connections left
  /-- What is still to come is part of the history. -/
  future : future ⊆ history
  /-- Nothing else is made in the other run. -/
  future' : ∀ call ∈ future', call.isFor id = true

namespace SeenInside

variable {id : SessionId} {history future future' : History} {left right : World Relay}
  {call : HookCall}

theorem mem_connections (here : SeenInside id history (call :: future) future' left right)
    {connection : Connection} (about : call.connection? = some connection) :
    connection ∈ history.connections :=
  History.mem_connections_of_mem (here.future List.mem_cons_self) about

theorem later (here : SeenInside id history (call :: future) future' left right) :
    future ⊆ history :=
  fun _ listed => here.future (List.mem_cons_of_mem call listed)

theorem homed_after (here : SeenInside id history (call :: future) future' left right) :
    World.Homed history.connections (left.after call) :=
  here.homed.after here.alike.sound fun _ about => here.mem_connections about

/-- A call reaches connections of its own session only. -/
theorem exists_of_reaches (here : SeenInside id history (call :: future) future' left right)
    {reached : ConnectionId} (reaches : call.Reaches left reached) :
    ∃ connection ∈ history.connections, connection.session = call.session ∧
      connection.id = reached := by
  rcases reaches with ⟨connection, about, rfl⟩ | ⟨member, inside, rfl⟩
  · exact ⟨connection, here.mem_connections about,
      (HookCall.session_of_connection? about).symm, rfl⟩
  · obtain ⟨home, listed⟩ := here.homed call.session member inside
    exact ⟨member, listed, home, rfl⟩

end SeenInside

/-- From inside a session, calls for other sessions are not noticed. -/
theorem unwinding_inside (id : SessionId) {history : History} (apart : history.KeepsApart id) :
    Unwinding (HookCall.isFor id) (World.AlikeInside id history.connections)
      (SeenInside id history) where
  seen here :=
    ⟨here.alike.sessions id rfl, fun connection listed home =>
      here.alike.wire connection.id ⟨connection, listed, home, rfl⟩⟩
  left here hidden := by
    have far := HookCall.session_of_not_isFor hidden
    refine ⟨here.alike.after_outside far ?_, here.homed_after, here.later, here.future'⟩
    rintro _ ⟨inner, listed, home, rfl⟩ reaches
    obtain ⟨outer, heard, elsewhere, same⟩ := here.exists_of_reaches reaches
    exact apart inner listed home outer heard (elsewhere ▸ far) same
  right here hidden := by
    rw [here.future' _ List.mem_cons_self] at hidden
    cases hidden
  both here visible := by
    have close := HookCall.session_of_isFor visible
    obtain ⟨result, alike⟩ := here.alike.within close fun reached reaches => by
      obtain ⟨connection, heard, home, same⟩ := here.exists_of_reaches reaches
      exact ⟨connection, heard, home.trans close, same⟩
    exact ⟨result, alike, here.homed_after, here.later,
      fun call listed => here.future' call (List.mem_cons_of_mem _ listed)⟩

/-- What happens in a session is the same without the calls for other sessions. -/
theorem agreeInSight_madeFor (configuration : PeerConfiguration) (id : SessionId)
    {history : History} (apart : history.KeepsApart id) :
    AgreeInSight (HookCall.isFor id) (World.AlikeInside id history.connections)
      (Relay.initial configuration) (Relay.initial configuration)
      history (history.madeFor id) := by
  refine (unwinding_inside id apart).agree ⟨?_, ?_, ?_, ?_⟩ ?_
  · exact ⟨rfl, rfl, rfl, fun _ _ => rfl, fun _ _ => rfl⟩
  · exact World.homed_initial configuration history.connections
  · exact List.Subset.refl history
  · exact fun call listed => (List.mem_filter.mp listed).2
  · rw [History.madeFor, List.filter_filter]
    simp

/-- Calls for three rooms with much the same name, not all of them in order: somebody
ends who never came, and somebody speaks who was never taken in. -/
def neighbours : History :=
  [.opened (visitor 0 "room"), .opened (visitor 1 "Room"),
    .message (visitor 0 "room") (notice "1"), .closed (visitor 2 "room/1"),
    .message (visitor 1 "Room") (notice "2"), .opened (visitor 3 "room"),
    .message (visitor 4 "room/1") (notice "3"), .closed (visitor 5 "room"),
    .closed (visitor 1 "Room"), .closed (visitor 3 "room")]

theorem agreeInSight_neighbours :
    neighbours.KeepsApart ⟨"room"⟩ ∧
      AgreeInSight (HookCall.isFor ⟨"room"⟩) (World.AlikeInside ⟨"room"⟩ neighbours.connections)
        (Relay.initial default) (Relay.initial default) neighbours
        (neighbours.madeFor ⟨"room"⟩) := by
  have apart : neighbours.KeepsApart ⟨"room"⟩ := by decide
  exact ⟨apart, agreeInSight_madeFor default ⟨"room"⟩ apart⟩

end Rendezvous
