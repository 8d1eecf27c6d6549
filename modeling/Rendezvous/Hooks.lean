/-
# The hooks of a transport

A transport tells the party that decides about sessions of four things: a client
wants in, a connection is open, a text has come in, a connection has ended. What
that party keeps is its own business; all that the transport sees of a call is
the result and what it does to the wires. A result other than success means that
the client is turned away or cut off.
-/

import Rendezvous.Event
import Rendezvous.Switchboard

namespace Rendezvous

/-- What a hook finds and leaves: the state of the party that decides, and the
wires. -/
structure World (σ : Type) where
  core : σ
  wires : Switchboard
  deriving DecidableEq, Repr

/-- Give the world other wires. -/
def World.withWires {σ : Type} (world : World σ) (wires : Switchboard) : World σ :=
  { world with wires := wires }

/-- What comes of a hook. -/
structure Outcome (σ : Type) where
  result : Except SignalingError Unit
  world : World σ
  /-- What the call writes to the log. -/
  events : List Event

/-- A call that a transport makes. -/
inductive HookCall
  /-- A client wants into a session. -/
  | handshake (session : SessionId)
  /-- A connection is open. -/
  | opened (connection : Connection)
  /-- A text has come in. -/
  | message (connection : Connection) (text : Octets)
  /-- A connection has ended. -/
  | closed (connection : Connection)
  deriving DecidableEq, Repr

/-- The party that decides about sessions, as a transport sees it. -/
structure Hooks (σ : Type) where
  handshake : SessionId → World σ → Outcome σ
  opened : Connection → World σ → Outcome σ
  message : Connection → Octets → World σ → Outcome σ
  closed : Connection → World σ → Outcome σ

/-- What comes of a call. -/
def Hooks.answer {σ : Type} (hooks : Hooks σ) : HookCall → World σ → Outcome σ
  | .handshake session => hooks.handshake session
  | .opened connection => hooks.opened connection
  | .message connection text => hooks.message connection text
  | .closed connection => hooks.closed connection

end Rendezvous
