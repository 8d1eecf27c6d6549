/-
# What is written to the log

Hooks report what they do as events, in the order in which it happens. Nothing
is decided by an event, and none is taken back; how it is worded, and how much it
matters, is settled here.
-/

import Rendezvous.Request
import Rendezvous.SignalingError

namespace Rendezvous

/-- How much an entry of the log matters. -/
inductive Level
  | error
  | warn
  | info
  | debug
  deriving DecidableEq, Repr

/-- The level as the log shows it. -/
def Level.display : Level → String
  | .error => "ERROR"
  | .warn => "WARN"
  | .info => "INFO"
  | .debug => "DEBUG"

/-- Something that happens to a connection or a session. -/
inductive Event
  | sessionFull (session : SessionId)
  | sessionCreated (session : SessionId)
  | sessionDeleted (session : SessionId)
  | attached (connection : Connection)
  | lateRejection (connection : Connection) (error : SignalingError)
  | flushing (connection : Connection) (count : Nat)
  | flushStopped (connection : Connection)
  | joined (connection : Connection)
  | received (connection : Connection) (text : Octets)
  | ignored (connection : Connection) (reason : Unrecognized)
  | notifyDropped (connection : Connection)
  | notifyQueued (connection : Connection)
  | notifyUndelivered (connection peer : Connection)
  | discarded (connection : ConnectionId) (session : SessionId) (count : Nat)
  | left (connection : Connection)
  | hangingUp (peer : Connection)
  deriving DecidableEq, Repr

namespace Event

/-- How much an event matters. -/
def level : Event → Level
  | .sessionCreated _ | .sessionDeleted _ | .joined _ | .left _ | .hangingUp _ => .info
  | .lateRejection _ _ | .ignored _ _ => .warn
  | .sessionFull _ | .attached _ | .flushing _ _ | .flushStopped _ | .received _ _
  | .notifyDropped _ | .notifyQueued _ | .notifyUndelivered _ _ | .discarded _ _ _ => .debug

/-- The wording of an event. -/
def message : Event → String
  | .sessionFull session => "Session " ++ session.text ++ " is full"
  | .sessionCreated session => "Creating session " ++ session.text
  | .sessionDeleted session => "Deleting session " ++ session.text
  | .attached c => "Connection " ++ c.id.display ++ " attached to session " ++ c.session.text
  | .lateRejection c error =>
    "Late rejection of " ++ c.id.display ++ " from " ++ c.address.toText ++ ": " ++ error.message
  | .flushing c count =>
    "Flushing " ++ toString count ++ " queued message(s) to " ++ c.id.display ++
      " in session " ++ c.session.text
  | .flushStopped c =>
    "Flush to " ++ c.id.display ++ " stopped: " ++ (SignalingError.peerGone c.id).message
  | .joined c =>
    "Connection " ++ c.id.display ++ " from " ++ c.address.toText ++ " joined session " ++
      c.session.text
  | .received c text => "Message from " ++ c.id.display ++ ": " ++ text.toText
  | .ignored c reason => "Ignoring message from " ++ c.id.display ++ ": " ++ reason.message
  | .notifyDropped c => "Dropping NOTIFY from " ++ c.id.display ++ ": hanging up"
  | .notifyQueued c =>
    "Queueing NOTIFY from " ++ c.id.display ++ " in session " ++ c.session.text
  | .notifyUndelivered c peer =>
    "NOTIFY from " ++ c.id.display ++ " not delivered: " ++
      (SignalingError.peerGone peer.id).message
  | .discarded id session count =>
    "Discarded " ++ toString count ++ " queued message(s) from " ++ id.display ++
      " in session " ++ session.text
  | .left c => "Connection " ++ c.id.display ++ " left session " ++ c.session.text
  | .hangingUp peer =>
    "Hanging up " ++ peer.id.display ++ " in session " ++ peer.session.text

/-- An entry of the log. -/
def display (event : Event) : String :=
  event.level.display ++ " " ++ event.message

end Event

end Rendezvous
