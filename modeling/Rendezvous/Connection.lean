/-
# Connections

A connection belongs to one session for its whole life. Two connections are the
same if their identifiers are; the label in an identifier is only for showing.
-/

import Rendezvous.SessionId
import Rendezvous.SocketAddress

namespace Rendezvous

/-- What tells connections apart: a serial number, and the label under which the
connection is shown. -/
structure ConnectionId where
  serial : Nat
  label : String
  deriving DecidableEq, Repr

/-- An identifier as it is shown in messages. -/
def ConnectionId.display (id : ConnectionId) : String :=
  "<" ++ id.label ++ ">"

/-- One client's connection. -/
structure Connection where
  id : ConnectionId
  session : SessionId
  address : SocketAddress
  deriving DecidableEq, Repr

end Rendezvous
