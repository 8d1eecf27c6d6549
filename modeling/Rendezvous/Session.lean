/-
# Sessions

A session pairs at most two connections. What one of them has to say while it is
alone waits in the order in which it was said, each entry with its sender, until
the other comes; when a sender leaves, what it left behind goes with it.
-/

import Rendezvous.Request
import Rendezvous.SignalingError

namespace Rendezvous

/-- A payload that waits, and who said it. -/
structure PendingEntry where
  sender : ConnectionId
  payload : Payload
  deriving DecidableEq, Repr

/-- The meeting point of one session. -/
structure Session where
  id : SessionId
  /-- The connections present, in the order in which they came. -/
  members : List Connection
  /-- What waits for the next connection, the oldest first. -/
  pending : List PendingEntry
  deriving DecidableEq, Repr

namespace Session

/-- How many connections a session holds. -/
def capacity : Nat := 2

/-- A session in which nothing has happened. -/
def new (id : SessionId) : Session := ⟨id, [], []⟩

/-- Whether no further connection is taken. -/
def isFull (session : Session) : Bool := capacity ≤ session.members.length

/-- Whether no connection is present. -/
def isEmpty (session : Session) : Bool := session.members.isEmpty

/-- Whether a connection is present. -/
def contains (session : Session) (id : ConnectionId) : Bool :=
  session.members.any fun member => member.id = id

/-- Take a connection in as the last member. -/
def attach (session : Session) (connection : Connection) : Except SignalingError Session :=
  if session.isFull then .error (.spaceFull session.id)
  else .ok { session with members := session.members ++ [connection] }

/-- Let a connection go, present or not, with everything it left behind. -/
def detach (session : Session) (id : ConnectionId) : Session :=
  { session with
    members := session.members.filter fun member => member.id ≠ id
    pending := session.pending.filter fun entry => entry.sender ≠ id }

/-- How many payloads a connection has left behind. -/
def pendingFrom (session : Session) (id : ConnectionId) : Nat :=
  (session.pending.filter fun entry => entry.sender = id).length

/-- The first member that is not the given connection. -/
def otherMember (session : Session) (id : ConnectionId) : Option Connection :=
  session.members.find? fun member => member.id ≠ id

/-- Leave a payload behind. -/
def enqueue (session : Session) (sender : ConnectionId) (payload : Payload) : Session :=
  { session with pending := session.pending ++ [⟨sender, payload⟩] }

/-- Everything that waits, the oldest first. -/
def waiting (session : Session) : List Payload :=
  session.pending.map PendingEntry.payload

/-- Hand over everything that waits. -/
def drainAll (session : Session) : List Payload × Session :=
  (session.waiting, { session with pending := [] })

theorem attach_of_not_isFull {session : Session} (room : session.isFull = false)
    (connection : Connection) :
    session.attach connection =
      .ok { session with members := session.members ++ [connection] } := by
  simp [attach, room]

theorem attach_of_isFull {session : Session} (full : session.isFull = true)
    (connection : Connection) : session.attach connection = .error (.spaceFull session.id) := by
  simp [attach, full]

theorem contains_iff {session : Session} {id : ConnectionId} :
    session.contains id = true ↔ ∃ member ∈ session.members, member.id = id := by
  simp [contains]

theorem contains_detach_self (session : Session) (id : ConnectionId) :
    (session.detach id).contains id = false := by
  simp [contains, detach]

theorem detach_detach (session : Session) (id : ConnectionId) :
    (session.detach id).detach id = session.detach id := by
  simp [detach]

theorem detach_comm (session : Session) (first second : ConnectionId) :
    (session.detach first).detach second = (session.detach second).detach first := by
  simp [detach, List.filter_filter, Bool.and_comm]

theorem ne_of_otherMember {session : Session} {id : ConnectionId} {other : Connection}
    (found : session.otherMember id = some other) : other.id ≠ id := by
  simpa using List.find?_some found

theorem mem_of_otherMember {session : Session} {id : ConnectionId} {other : Connection}
    (found : session.otherMember id = some other) : other ∈ session.members :=
  List.mem_of_find?_eq_some found

end Session

end Rendezvous
