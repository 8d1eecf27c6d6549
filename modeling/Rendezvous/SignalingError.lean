/-
# Why a client is turned away or cut off

The hooks of the relay and the policy at its door refuse in the same terms. An
error names its cause and what it is about; its wording is settled here once, and
what a client gets to see of it is settled by the server, which shows less.
-/

import Rendezvous.Connection
import Rendezvous.Json.Fault

namespace Rendezvous

/-- The request headers that an access policy looks at. -/
inductive GuardedHeader
  | host
  | origin
  deriving DecidableEq, Repr

/-- The header as an error names it. -/
def GuardedHeader.describe : GuardedHeader → String
  | .host => "host"
  | .origin => "origin"

/-- Why a client is turned away or cut off. -/
inductive SignalingError
  /-- The session has as many members as it may have. -/
  | spaceFull (session : SessionId)
  /-- The path is not allowed or names no session. -/
  | invalidPath (path : String)
  /-- A header has a value, or is absent, against the policy. -/
  | forbidden (header : GuardedHeader) (value : Option String)
  /-- A frame is no object. -/
  | protocol (cause : Json.Cause) (place : Json.Place)
  /-- Nobody is left to receive what was sent to the connection. -/
  | peerGone (connection : ConnectionId)
  /-- The server itself is at fault. -/
  | internal (what : String)
  deriving DecidableEq, Repr

namespace SignalingError

/-- What every use of the registry meets after it was left in disorder. -/
def lockPoisoned : SignalingError := .internal "session registry lock poisoned"

/-- The wording of an error. -/
def message : SignalingError → String
  | .spaceFull session => "space full: " ++ session.text
  | .invalidPath path => "invalid path: " ++ path
  | .forbidden header value =>
    "forbidden: " ++ header.describe ++ " " ++ value.getD "<none>"
  | .protocol cause place => "protocol error: " ++ place.report cause
  | .peerGone connection => "peer gone: " ++ connection.display
  | .internal what => "internal error: " ++ what

end SignalingError

/-- The session that a path names, or the error that says it names none. -/
def SessionId.ofPath (path : String) : Except SignalingError SessionId :=
  match SessionId.ofPath? path with
  | some session => .ok session
  | none => .error (.invalidPath path)

end Rendezvous
