/-
# The server

The server stands between clients and hooks. A client acts, the server calls the
hooks that the action asks for, and everything that follows from it is carried
out before the next action: messages on wires reach their clients, and sockets
that were marked for closing are closed, which may mark further ones. What
happened is reported in order; nothing of it is kept but the open sockets and
what the hooks keep.

What lies below the sockets is taken as given. A text that comes in is UTF-8 and not
longer than a frame and a message may be, and a close frame that comes in carries a code
that may be sent; octets that break these or other rules of framing are garbage, and a
close frame with another code, which the transport answers in its own way, is left out.
Time is left out too: no ping is due while an action is carried out, a client that does
not answer pings is one that vanishes, and a socket whose client is there is always let go
before the patience with it is at an end.
-/

import Rendezvous.Hooks
import Rendezvous.Server.UpgradeRequest
import Rendezvous.Server.Writer

namespace Rendezvous

namespace CloseFrame

/-- The other party of the session has left. -/
def peerLeft : CloseFrame := ⟨1000, "peer left"⟩

/-- The client sent a text that is no object. -/
def invalidMessage : CloseFrame := ⟨1002, "invalid message"⟩

/-- The session was full after all. -/
def spaceFull : CloseFrame := ⟨1008, "space full"⟩

/-- The server itself is at fault. -/
def internalError : CloseFrame := ⟨1011, "internal error"⟩

/-- The last word where the hook for an open connection fails. -/
def ofOpenError : SignalingError → CloseFrame
  | .spaceFull _ => spaceFull
  | _ => internalError

/-- The last word where the hook for a text fails. -/
def ofMessageError : SignalingError → CloseFrame
  | .protocol _ _ => invalidMessage
  | _ => internalError

end CloseFrame

/-- How a socket ends. -/
inductive Farewell
  /-- The client is gone and hears nothing more. -/
  | vanished
  /-- What was on the wire is sent, and then a close frame, which may be empty. -/
  | frame (content : Option CloseFrame)
  /-- The client has closed the stream and is sent its own close frame back. -/
  | echoed (content : Option CloseFrame)
  deriving DecidableEq, Repr

namespace Farewell

/-- What the writer of a socket has before it when the socket is let go: the texts that were
on the wire, and a close frame if one was asked for. -/
def writer (farewell : Farewell) (texts : List Outgoing) : Writer :=
  match farewell with
  | .vanished | .frame none => ⟨texts, [], none⟩
  | .frame (some content) => ⟨texts, [.close content], none⟩
  | .echoed content => ⟨texts, [], some content⟩

/-- What still goes out on a socket that is let go. To a client that is gone nothing does. -/
def transmissions (farewell : Farewell) (texts : List Outgoing) : List Transmission :=
  let writer := farewell.writer texts
  match farewell with
  | .vanished => writer.write 0
  | .frame _ | .echoed _ => writer.write writer.length

end Farewell

/-- What a client does. -/
inductive ClientAction
  /-- Asks for a connection, to be shown under the given label. -/
  | connect (label : String) (address : SocketAddress) (request : UpgradeRequest)
  /-- Sends a text. -/
  | text (id : ConnectionId) (content : Octets)
  /-- Sends a binary frame or a ping. -/
  | aside (id : ConnectionId)
  /-- Sends a close frame, which may be empty. -/
  | close (id : ConnectionId) (frame : Option CloseFrame)
  /-- Is gone, or no longer answers. -/
  | vanish (id : ConnectionId)
  /-- Sends octets that are no frame. -/
  | garbage (id : ConnectionId)
  deriving DecidableEq, Repr

/-- What is seen of the server. Every report names the connection, or the request
for one, that it is about. -/
inductive Report
  /-- A hook was called. -/
  | called (id : ConnectionId) (call : HookCall) (result : Except SignalingError Unit)
  /-- A request was answered. -/
  | answered (id : ConnectionId) (reception : Reception)
  /-- A message reached its client. -/
  | delivered (id : ConnectionId) (message : Outgoing)
  /-- A client got a close frame, the last that it gets. -/
  | closedWith (id : ConnectionId) (frame : Option CloseFrame)

/-- What is reported of a transmission that has got through. -/
def Transmission.report? (id : ConnectionId) : Transmission → Option Report
  | .text message => some (.delivered id message)
  | .ping => none
  | .close frame => some (.closedWith id frame)

/-- What a server is run with. -/
structure Service (σ : Type) where
  hooks : Hooks σ
  policy : AccessPolicy

/-- A running server: the world of its hooks, the open sockets in the order in
which they were accepted, and how many requests have come in, which numbers the
next. -/
structure Server (σ : Type) where
  world : World σ
  sockets : List Connection
  requests : Nat

namespace Server

variable {σ : Type}

/-- A server that nobody has come to yet. -/
def start (world : World σ) : Server σ := ⟨world, [], 0⟩

/-- The open socket of an identifier. -/
def socket? (server : Server σ) (id : ConnectionId) : Option Connection :=
  server.sockets.find? fun socket => socket.id = id

/-- Take the messages off one wire. -/
def deliverTo (server : Server σ) (id : ConnectionId) : Server σ × List Report :=
  let (messages, wires) := server.world.wires.collect id
  ({ server with world := server.world.withWires wires }, messages.map (.delivered id))

/-- Take the messages off the wires of some sockets. -/
def deliverAll (server : Server σ) : List Connection → Server σ × List Report
  | [] => (server, [])
  | socket :: rest =>
    let (served, first) := server.deliverTo socket.id
    let (done, later) := served.deliverAll rest
    (done, first ++ later)

end Server

namespace Service

variable {σ : Type} (service : Service σ)

/-- Make a call and report it. -/
def call (id : ConnectionId) (call : HookCall) (world : World σ) :
    World σ × Except SignalingError Unit × Report :=
  let outcome := service.hooks.answer call world
  (outcome.world, outcome.result, .called id call outcome.result)

/-- Let a socket go: its writer sends what it still has to send, and the wire is cut. -/
def letGo (id : ConnectionId) (farewell : Farewell) (world : World σ) :
    World σ × List Report :=
  let (texts, wires) := world.wires.collect id
  (world.withWires (wires.abandon id),
    (farewell.transmissions texts).filterMap (Transmission.report? id))

/-- End a socket: the hooks hear of it first. -/
def finish (socket : Connection) (farewell : Farewell) (server : Server σ) :
    Server σ × List Report :=
  let (told, _, report) := service.call socket.id (.closed socket) server.world
  let (world, reports) := letGo socket.id farewell told
  let remaining := server.sockets.filter fun other => other.id ≠ socket.id
  ({ server with world := world, sockets := remaining }, report :: reports)

/-- Carry out what is left to do: end the sockets that are marked for closing, one
after the other, at most as many as are open, and then deliver everything. -/
def settleWithin : Nat → Server σ → Server σ × List Report
  | 0, server => server.deliverAll server.sockets
  | fuel + 1, server =>
    match server.sockets.find? fun socket => server.world.wires.isClosing socket.id with
    | none => server.deliverAll server.sockets
    | some socket =>
      let (ended, first) := service.finish socket (.frame (some .peerLeft)) server
      let (settled, later) := settleWithin fuel ended
      (settled, first ++ later)

/-- Carry out everything that is left to do. -/
def settle (server : Server σ) : Server σ × List Report :=
  service.settleWithin server.sockets.length server

/-- A request for a connection under its number. What is no request for a WebSocket
gets no answer; then the policy is asked, then the hook for those who want in, and
only then is the connection open, which the hooks may still not accept. -/
def receive (id : ConnectionId) (address : SocketAddress) (request : UpgradeRequest)
    (server : Server σ) : Server σ × List Report :=
  if !request.asksForUpgrade then (server, [.answered id .unanswered])
  else
    match request.admission service.policy with
    | .error error => (server, [.answered id (.ofError error)])
    | .ok session =>
      let (asked, wanted, first) := service.call id (.handshake session) server.world
      match wanted with
      | .error error =>
        ({ server with world := asked }, [first, .answered id (.ofError error)])
      | .ok () =>
        let connection : Connection := ⟨id, session, address⟩
        let (entered, taken, second) := service.call id (.opened connection) asked
        let reports := [first, .answered id (.accepted session), second]
        match taken with
        | .ok () =>
          ({ server with world := entered, sockets := server.sockets ++ [connection] }, reports)
        | .error error =>
          let (world, last) := letGo id (.frame (some (.ofOpenError error))) entered
          ({ server with world := world }, reports ++ last)

/-- A client asks for a connection: the request gets the next number. -/
def connect (label : String) (address : SocketAddress) (request : UpgradeRequest)
    (server : Server σ) : Server σ × List Report :=
  service.receive ⟨server.requests, label⟩ address request
    { server with requests := server.requests + 1 }

/-- What an action of the client of an open socket leads to at once. -/
def react (socket : Connection) (server : Server σ) : ClientAction → Server σ × List Report
  | .text _ content =>
    let (world, result, report) := service.call socket.id (.message socket content) server.world
    let heard : Server σ := { server with world := world }
    match result with
    | .ok () => (heard, [report])
    | .error error =>
      let (ended, reports) :=
        service.finish socket (.frame (some (.ofMessageError error))) heard
      (ended, report :: reports)
  | .close _ frame => service.finish socket (.echoed frame) server
  | .vanish _ => service.finish socket .vanished server
  | .garbage _ => service.finish socket (.frame none) server
  | .aside _ | .connect _ _ _ => (server, [])

/-- What an action leads to at once. Nothing comes of what a client does whose
socket is not open. -/
def act (server : Server σ) (action : ClientAction) : Server σ × List Report :=
  match action with
  | .connect label address request => service.connect label address request server
  | .text id _ | .aside id | .close id _ | .vanish id | .garbage id =>
    match server.socket? id with
    | none => (server, [])
    | some socket => service.react socket server action

/-- An action and everything that follows from it. -/
def step (server : Server σ) (action : ClientAction) : Server σ × List Report :=
  let (acted, first) := service.act server action
  let (settled, later) := service.settle acted
  (settled, first ++ later)

/-- A run of actions, each settled before the next. -/
def run (server : Server σ) : List ClientAction → Server σ × List Report
  | [] => (server, [])
  | action :: rest =>
    let (stepped, first) := service.step server action
    let (done, later) := run stepped rest
    (done, first ++ later)

end Service

end Rendezvous
