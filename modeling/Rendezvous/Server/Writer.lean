/-
# The writer of a socket

Whatever goes out on a socket goes out through its writer, which is handed texts and
control messages in two queues. It sends a text whenever there is one and turns to the
control messages only then, so that everything that waits for the client goes out before a
close frame, however early that was asked for. A close frame is the last that is sent; a
writer that comes to the end of both queues without one closes the stream with an empty
close frame.

A client may have closed the stream itself. Its close frame is sent back then, and the
stream takes nothing else any more. And a writer may be stopped before it is done, because
the client is gone or takes too long.
-/

import Rendezvous.Outgoing

namespace Rendezvous

/-- The last word on a socket: a code and a reason. -/
structure CloseFrame where
  code : Nat
  reason : String
  deriving DecidableEq, Repr

/-- What a writer is handed beside texts. -/
inductive Control
  | ping
  | close (frame : CloseFrame)
  deriving DecidableEq, Repr

/-- What goes out on a socket. -/
inductive Transmission
  | text (message : Outgoing)
  | ping
  /-- A close frame, which may be empty. -/
  | close (frame : Option CloseFrame)

/-- What a writer has before it. -/
structure Writer where
  /-- The texts that were handed to it, the oldest first. -/
  texts : List Outgoing
  /-- The control messages that were handed to it, the oldest first. -/
  controls : List Control
  /-- The close frame of the client, if the client has closed the stream. -/
  closedBy : Option (Option CloseFrame)

namespace Writer

/-- What goes out next, and what is before the writer then; nothing is after the last. -/
def next (writer : Writer) : Transmission × Option Writer :=
  match writer.closedBy with
  | some frame => (.close frame, none)
  | none =>
    match writer.texts, writer.controls with
    | message :: texts, _ => (.text message, some { writer with texts := texts })
    | [], .ping :: controls => (.ping, some { writer with controls := controls })
    | [], .close frame :: _ => (.close (some frame), none)
    | [], [] => (.close none, none)

/-- What goes out on a socket whose writer is stopped after a number of transmissions, if it
is not done before. -/
def write : Nat → Writer → List Transmission
  | 0, _ => []
  | patience + 1, writer => writer.next.1 :: writer.next.2.elim [] (write patience)

/-- A number of transmissions after which a writer is done. -/
def length (writer : Writer) : Nat := writer.texts.length + writer.controls.length + 1

end Writer

end Rendezvous
