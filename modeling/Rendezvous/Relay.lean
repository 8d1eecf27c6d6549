/-
# The relay

The relay pairs the connections of a session and passes on what each has to say
to the other. What is said before the other has come waits in the session; it is
handed over when the other comes, before anything said later. When one of a pair
leaves, the other is hung up, and the session is gone.

A registry that was left in disorder is never touched again: every call that
would look into it fails.

Each call of a hook is one step here, from what it finds to all that it leaves, and
calls follow one another. Within a call the mark of a sender is read before the registry
is entered, and a payload is put on the wire of the other member, or the other member
hung up, after the registry is left. What two calls that overlap may do to each other in
between is not looked at.
-/

import Rendezvous.Hooks
import Rendezvous.Registry

namespace Rendezvous

/-- What the relay keeps. -/
structure Relay where
  registry : Registry
  /-- What clients are told on request. -/
  configuration : PeerConfiguration
  /-- Whether the registry was left in disorder. -/
  poisoned : Bool
  deriving DecidableEq, Repr

/-- How many members a session has and how many payloads wait in it. -/
structure SessionStats where
  members : Nat
  pending : Nat
  deriving DecidableEq, Repr

namespace Relay

/-- A relay that nobody has come to yet. -/
def new (configuration : PeerConfiguration) : Relay := ⟨.empty, configuration, false⟩

/-- The counts of a session that exists. -/
def sessionStats (relay : Relay) (id : SessionId) : Option SessionStats :=
  if relay.poisoned then none
  else (relay.registry.get? id).map fun session =>
    ⟨session.members.length, session.pending.length⟩

/-- How many sessions exist. -/
def sessionCount (relay : Relay) : Nat :=
  if relay.poisoned then 0 else relay.registry.size

/-- The world before anything has happened. -/
def initial (configuration : PeerConfiguration) : World Relay :=
  ⟨new configuration, .empty⟩

end Relay

namespace World

/-- Give the world another registry. -/
def withRegistry (world : World Relay) (registry : Registry) : World Relay :=
  { world with core := { world.core with registry := registry } }

end World

namespace Relay

/-- A call that fails and changes nothing. -/
def refuse (world : World Relay) (error : SignalingError) (events : List Event) :
    Outcome Relay :=
  ⟨.error error, world, events⟩

/-- A call that succeeds. -/
def accept (world : World Relay) (events : List Event) : Outcome Relay :=
  ⟨.ok (), world, events⟩

/-- The entry of the log for a session that does not exist yet. -/
def creation (registry : Registry) (id : SessionId) : List Event :=
  if (registry.get? id).isNone then [.sessionCreated id] else []

/-- A client wants into a session; it is turned away while the session is full. -/
def handshake (session : SessionId) (world : World Relay) : Outcome Relay :=
  if world.core.poisoned then refuse world .lockPoisoned []
  else if world.core.registry.isFull session then
    refuse world (.spaceFull session) [.sessionFull session]
  else accept world []

/-- Put everything that waited on the wire of a connection. Either all of it gets
there or, with nobody to receive it, none. -/
def flush (connection : Connection) (waiting : List Payload) (wires : Switchboard) :
    Switchboard × List Event :=
  if waiting.isEmpty then (wires, [])
  else
    let announced := Event.flushing connection waiting.length
    match wires.send? connection.id (waiting.map Outgoing.notify) with
    | some sent => (sent, [announced])
    | none => (wires, [announced, .flushStopped connection])

/-- A connection is open: it becomes a member of its session and gets what waits
there. A session that has filled up since the handshake takes nobody in. -/
def opened (connection : Connection) (world : World Relay) : Outcome Relay :=
  if world.core.poisoned then refuse world .lockPoisoned []
  else
    let registry := world.core.registry
    match (registry.session connection.session).attach connection with
    | .error error => refuse world error [.lateRejection connection error]
    | .ok joined =>
      let (waiting, drained) := joined.drainAll
      let (wires, flushed) := flush connection waiting world.wires
      accept ((world.withRegistry (registry.set connection.session drained)).withWires wires)
        (creation registry connection.session ++ [.attached connection] ++ flushed ++
          [.joined connection])

/-- Pass a payload on to the other member, or keep it until there is one. What a
connection says while it is being hung up is dropped. -/
def pass (connection : Connection) (data : Payload) (world : World Relay) : Outcome Relay :=
  if world.wires.isClosing connection.id then accept world [.notifyDropped connection]
  else if world.core.poisoned then refuse world .lockPoisoned []
  else
    let registry := world.core.registry
    let session := registry.session connection.session
    match session.otherMember connection.id with
    | some peer =>
      match world.wires.send? peer.id [.notify data] with
      | some sent => accept (world.withWires sent) []
      | none => accept world [.notifyUndelivered connection peer]
    | none =>
      accept (world.withRegistry
          (registry.set connection.session (session.enqueue connection.id data)))
        (creation registry connection.session ++ [.notifyQueued connection])

/-- What a request does. -/
def serve (connection : Connection) (world : World Relay) : Request → Outcome Relay
  | .getConfiguration msgId =>
    match world.wires.send? connection.id [.configuration world.core.configuration msgId] with
    | some sent => accept (world.withWires sent) []
    | none => refuse world (.peerGone connection.id) []
  | .notify data => pass connection data world
  | .unrecognized reason => accept world [.ignored connection reason]

/-- A text has come in. -/
def message (connection : Connection) (text : Octets) (world : World Relay) :
    Outcome Relay :=
  let received := Event.received connection text
  match Request.parse text with
  | .error fault =>
    refuse world (.protocol fault.cause (.of text fault.position)) [received]
  | .ok request =>
    let outcome := serve connection world request
    { outcome with events := received :: outcome.events }

/-- The entry of the log for what a connection leaves behind. -/
def leftBehind (session : Session) (id : ConnectionId) : List Event :=
  let count := session.pendingFrom id
  if 0 < count then [.discarded id session.id count] else []

/-- A connection has ended: it leaves its session, and if it was one of two
members, the other leaves as well and is hung up. A connection that is no member
takes nobody with it. -/
def closed (connection : Connection) (world : World Relay) : Outcome Relay :=
  if world.core.poisoned then refuse world .lockPoisoned []
  else
    let registry := world.core.registry
    match registry.get? connection.session with
    | none => accept world []
    | some session =>
      let peer :=
        if session.contains connection.id then session.otherMember connection.id else none
      let alone := session.detach connection.id
      let emptied := peer.elim alone fun other => alone.detach other.id
      let (removed, remaining) :=
        Registry.removeIfEmpty (registry.set connection.session emptied) connection.session
      let wires := peer.elim world.wires fun other => world.wires.close other.id
      accept ((world.withRegistry remaining).withWires wires)
        (leftBehind session connection.id ++
          peer.elim [] (fun other => leftBehind alone other.id) ++
          (if removed then [.sessionDeleted connection.session] else []) ++
          [.left connection] ++
          peer.elim [] fun other => [.hangingUp other])

/-- The relay as a transport sees it. -/
def hooks : Hooks Relay := ⟨handshake, opened, message, closed⟩

end Relay

end Rendezvous
