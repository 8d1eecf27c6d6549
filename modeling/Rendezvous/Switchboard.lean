/-
# The switchboard

For every connection there is a wire: the messages on their way to the client, a
mark that the connection is to be closed, and whether anybody still takes the
messages off at the other end. Sessions never touch a socket; they put messages
on wires and mark wires for closing.
-/

import Rendezvous.Connection
import Rendezvous.Directory
import Rendezvous.Outgoing

namespace Rendezvous

/-- The wire of one connection. -/
structure Wire where
  /-- Messages on their way to the client, the oldest first. -/
  outbox : List Outgoing
  /-- Whether the connection is to be closed. -/
  closing : Bool
  /-- Whether the receiving end is still there. -/
  attended : Bool
  deriving DecidableEq, Repr

namespace Wire

/-- The wire of a connection that has just been made. -/
def new : Wire := ⟨[], false, true⟩

/-- The wire with more messages on it. -/
def carrying (wire : Wire) (messages : List Outgoing) : Wire :=
  { wire with outbox := wire.outbox ++ messages }

/-- The wire after its messages were taken off. -/
def drained (wire : Wire) : Wire := { wire with outbox := [] }

/-- The wire with the mark that its connection is to be closed. -/
def marked (wire : Wire) : Wire := { wire with closing := true }

/-- The wire without a receiving end; what was on it is lost. -/
def cut (wire : Wire) : Wire := { wire with outbox := [], attended := false }

end Wire

/-- The wires of all connections. -/
abbrev Switchboard := Directory ConnectionId Wire

namespace Switchboard

/-- The wire of a connection. -/
def wire (board : Switchboard) (id : ConnectionId) : Wire :=
  (board.get? id).getD Wire.new

/-- Put messages on a wire; `none` if nobody is left to receive them. -/
def send? (board : Switchboard) (id : ConnectionId) (messages : List Outgoing) :
    Option Switchboard :=
  if (board.wire id).attended then some (board.set id ((board.wire id).carrying messages))
  else none

/-- Mark a connection for closing. -/
def close (board : Switchboard) (id : ConnectionId) : Switchboard :=
  board.set id (board.wire id).marked

/-- Whether a connection is marked for closing. -/
def isClosing (board : Switchboard) (id : ConnectionId) : Bool :=
  (board.wire id).closing

/-- Take the messages off a wire. -/
def collect (board : Switchboard) (id : ConnectionId) : List Outgoing × Switchboard :=
  ((board.wire id).outbox, board.set id (board.wire id).drained)

/-- The receiving end of a wire is gone. -/
def abandon (board : Switchboard) (id : ConnectionId) : Switchboard :=
  board.set id (board.wire id).cut

@[simp] theorem wire_empty (id : ConnectionId) : wire .empty id = Wire.new := rfl

theorem wire_set (board : Switchboard) (id other : ConnectionId) (changed : Wire) :
    wire (board.set id changed) other = if other = id then changed else board.wire other := by
  unfold wire
  rw [Directory.get?_set]
  split <;> rfl

/-- Messages go to one wire, at its end, and only if somebody receives them. -/
theorem wire_of_send? {board sent : Switchboard} {id : ConnectionId}
    {messages : List Outgoing} (done : board.send? id messages = some sent)
    (other : ConnectionId) :
    sent.wire other =
      if other = id then (board.wire id).carrying messages else board.wire other := by
  unfold send? at done
  split at done
  · cases done
    exact wire_set board id other _
  · cases done

theorem send?_eq_none_iff {board : Switchboard} {id : ConnectionId}
    {messages : List Outgoing} :
    board.send? id messages = none ↔ (board.wire id).attended = false := by
  unfold send?
  split <;> simp_all

theorem wire_close (board : Switchboard) (id other : ConnectionId) :
    (board.close id).wire other =
      if other = id then (board.wire id).marked else board.wire other :=
  wire_set board id other _

theorem wire_collect (board : Switchboard) (id other : ConnectionId) :
    (board.collect id).2.wire other =
      if other = id then (board.wire id).drained else board.wire other :=
  wire_set board id other _

theorem wire_abandon (board : Switchboard) (id other : ConnectionId) :
    (board.abandon id).wire other =
      if other = id then (board.wire id).cut else board.wire other :=
  wire_set board id other _

end Switchboard

end Rendezvous
