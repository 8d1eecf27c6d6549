/-
# Histories of hook calls

A history is a list of hook calls, the oldest first, in whatever order a transport
makes them. Running it from a world gives the world it leaves and a transcript:
every call with its result and with the world right after it. What is to hold after
every call is stated of transcripts or of all prefixes of a history.

A world is seen here through its sessions and its wires, each as a function of its
key. The order in which keys came into a directory is never looked at.
-/

import Mathlib.Logic.Function.Basic
import Rendezvous.Relay

namespace Rendezvous

instance (priority := high) decidableEqExcept {ε α : Type} [DecidableEq ε] [DecidableEq α] :
    DecidableEq (Except ε α)
  | .error left, .error right =>
    decidable_of_iff (left = right) ⟨fun same => same ▸ rfl, Except.error.inj⟩
  | .ok left, .ok right =>
    decidable_of_iff (left = right) ⟨fun same => same ▸ rfl, Except.ok.inj⟩
  | .error _, .ok _ | .ok _, .error _ => isFalse nofun

namespace HookCall

/-- The connection that a call is about; a handshake is about none. -/
def connection? : HookCall → Option Connection
  | .handshake _ => none
  | .opened connection | .message connection _ | .closed connection => some connection

/-- The connection that a call opens. -/
def arrival? : HookCall → Option Connection
  | .opened connection => some connection
  | .handshake _ | .message _ _ | .closed _ => none

/-- The session that a call is made for. -/
def session : HookCall → SessionId
  | .handshake session => session
  | .opened connection | .message connection _ | .closed connection => connection.session

theorem session_of_connection? {call : HookCall} {connection : Connection}
    (about : call.connection? = some connection) : call.session = connection.session := by
  cases call with
  | handshake session => cases about
  | opened other | message other text | closed other =>
      cases about
      rfl

end HookCall

/-- Hook calls in the order in which they are made, the oldest first. -/
abbrev History := List HookCall

namespace History

/-- The connections that the calls of a history are about, one for each call. -/
def connections (history : History) : List Connection :=
  history.filterMap HookCall.connection?

/-- The connections in the order of their openings, those turned away included. -/
def arrivals (history : History) : List Connection :=
  history.filterMap HookCall.arrival?

theorem connections_append (first second : History) :
    connections (first ++ second) = connections first ++ connections second :=
  List.filterMap_append

theorem arrivals_append (first second : History) :
    arrivals (first ++ second) = arrivals first ++ arrivals second :=
  List.filterMap_append

theorem mem_connections_of_mem {history : History} {call : HookCall} {connection : Connection}
    (made : call ∈ history) (about : call.connection? = some connection) :
    connection ∈ connections history :=
  List.mem_filterMap.mpr ⟨call, made, about⟩

end History

namespace World

/-- The sessions of a world by their identifiers. -/
def sessions (world : World Relay) (id : SessionId) : Option Session :=
  world.core.registry.get? id

/-- The session of an identifier, as it would be found on entering it. -/
def session (world : World Relay) (id : SessionId) : Session :=
  (world.sessions id).getD (Session.new id)

theorem session_of_sessions {world : World Relay} {id : SessionId} {session : Session}
    (present : world.sessions id = some session) : world.session id = session := by
  rw [World.session, present, Option.getD_some]

/-- The wires of a world by their connections. -/
def wire {σ : Type} (world : World σ) (id : ConnectionId) : Wire :=
  world.wires.wire id

/-- The world after one call. -/
def after (world : World Relay) (call : HookCall) : World Relay :=
  (Relay.hooks.answer call world).world

/-- What the transport is told about one call. -/
def result (world : World Relay) (call : HookCall) : Except SignalingError Unit :=
  (Relay.hooks.answer call world).result

/-- The world after all calls of a history. -/
def afterAll (world : World Relay) (history : History) : World Relay :=
  history.foldl after world

@[simp] theorem afterAll_nil (world : World Relay) : world.afterAll [] = world := rfl

@[simp] theorem afterAll_cons (world : World Relay) (call : HookCall) (rest : History) :
    world.afterAll (call :: rest) = (world.after call).afterAll rest := rfl

theorem afterAll_append (world : World Relay) (first second : History) :
    world.afterAll (first ++ second) = (world.afterAll first).afterAll second :=
  List.foldl_append

theorem afterAll_snoc (world : World Relay) (past : History) (call : HookCall) :
    world.afterAll (past ++ [call]) = (world.afterAll past).after call :=
  afterAll_append world past [call]

end World

/-- One line of a transcript: a call, its result and the world right after it. -/
structure Record where
  call : HookCall
  result : Except SignalingError Unit
  world : World Relay

namespace World

/-- The line that a call adds to a transcript. -/
def record (world : World Relay) (call : HookCall) : Record :=
  ⟨call, world.result call, world.after call⟩

/-- What happens along a history, call by call. -/
def transcript (world : World Relay) : History → List Record
  | [] => []
  | call :: rest => world.record call :: (world.after call).transcript rest

theorem transcript_append (world : World Relay) (first second : History) :
    world.transcript (first ++ second) =
      world.transcript first ++ (world.afterAll first).transcript second := by
  induction first generalizing world with
  | nil => rfl
  | cons call rest ih =>
      rw [List.cons_append, transcript, transcript, List.cons_append, ih, afterAll_cons]

theorem transcript_snoc (world : World Relay) (past : History) (call : HookCall) :
    world.transcript (past ++ [call]) =
      world.transcript past ++ [(world.afterAll past).record call] :=
  transcript_append world past [call]

/-- A transcript has one line for each call, in their order. -/
theorem map_call_transcript (world : World Relay) (history : History) :
    (world.transcript history).map Record.call = history := by
  induction history generalizing world with
  | nil => rfl
  | cons call rest ih => rw [transcript, List.map_cons, ih, record]

end World

/-! ## Calls to try statements on -/

/-- A client on the loopback interface. -/
def visitor (serial : Nat) (session : String) : Connection :=
  ⟨⟨serial, "visitor"⟩, ⟨session⟩, .loopback⟩

/-- A frame with the given data for the other party. -/
def notice (data : String) : Octets :=
  (Outgoing.notify (.ofText data)).toText

end Rendezvous
