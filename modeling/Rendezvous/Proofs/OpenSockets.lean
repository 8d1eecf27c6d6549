/-
# The registry and the open sockets

A server with the relay behind it keeps two lists of who is there: its open sockets, and the
members of the sessions. Between two steps they agree. While a step is carried out they need
not, since the partner of a socket that has ended is out of its session before its own
socket is closed; but then it is marked, and `InStep` allows for that. Every call of a hook
and every end of a socket preserves `InStep`, and when all is settled nobody is marked.
-/

import Mathlib.Data.List.Perm.Subperm
import Rendezvous.Proofs.HookContract
import Rendezvous.Proofs.Moves

namespace Rendezvous

/-- The members of the sessions are the open sockets that are not marked for closing. -/
structure InStep (server : Server Relay) : Prop where
  numbered : server.Numbered
  sound : server.world.core.poisoned = false
  staged : server.world.Staged
  member_iff : ∀ connection, server.world.Member connection ↔
    connection ∈ server.sockets ∧ (server.world.wire connection.id).closing = false
  /-- Only a connection that has been heard of is ever marked. -/
  closing_below : ∀ id, (server.world.wire id).closing = true → id.serial < server.requests
  /-- Somebody is at the wire of every socket that is open or is still to come. -/
  attended : ∀ id, id ∈ server.sockets.map Connection.id ∨ server.requests ≤ id.serial →
    (server.world.wire id).attended = true
  /-- Members stand in the order in which their sockets were opened. -/
  arrived : ∀ id session, server.world.sessions id = some session →
    session.members.Sublist server.sockets

theorem inStep_start (configuration : PeerConfiguration) :
    InStep (.start (Relay.initial configuration)) where
  numbered := Server.numbered_start _
  sound := rfl
  staged _ := .vacant
  member_iff connection := by
    constructor
    · rintro ⟨session, present, -⟩
      cases present
    · rintro ⟨open_, -⟩
      cases open_
  closing_below _ closing := by cases closing
  attended _ _ := rfl
  arrived _ _ present := by cases present

namespace InStep

variable {server : Server Relay} {socket connection : Connection}

theorem eq_of_id (inStep : InStep server) {first second : Connection}
    (one : first ∈ server.sockets) (two : second ∈ server.sockets)
    (same : first.id = second.id) : first = second :=
  List.inj_on_of_nodup_map inStep.numbered.distinct one two same

theorem mem_sockets (inStep : InStep server) (member : server.world.Member connection) :
    connection ∈ server.sockets :=
  ((inStep.member_iff connection).mp member).1

theorem attended_of_mem (inStep : InStep server) (open_ : socket ∈ server.sockets) :
    (server.world.wire socket.id).attended = true :=
  inStep.attended socket.id (.inl (List.mem_map_of_mem open_))

/-! ## Every call is a move -/

theorem moves_message (inStep : InStep server) (open_ : socket ∈ server.sockets)
    (text : Octets) : server.world.Moves (.message socket text) := by
  refine World.moves_message inStep.sound inStep.staged (inStep.attended_of_mem open_)
    (fun peer together => ?_) (fun closing => ?_) text
  · exact inStep.attended_of_mem (inStep.mem_sockets (together.symm.member inStep.staged))
  · exact (inStep.member_iff socket).mpr ⟨open_, closing⟩

theorem moves_closed (inStep : InStep server) (open_ : socket ∈ server.sockets) :
    server.world.Moves (.closed socket) := by
  apply World.moves_closed inStep.sound inStep.staged
  intro outside member inside same
  cases present : server.world.sessions socket.session with
  | none =>
      rw [World.session, present] at inside
      cases inside
  | some session =>
      rw [World.session_of_sessions present] at inside
      have listed := (inStep.arrived _ _ present).subset inside
      obtain rfl := inStep.eq_of_id listed open_ same
      exact outside ⟨session, present, inside⟩

theorem moves_opened (inStep : InStep server) (next : connection.id.serial = server.requests) :
    server.world.Moves (.opened connection) := by
  apply World.moves_opened inStep.sound inStep.staged
  · exact inStep.attended _ (.inr (Nat.le_of_eq next.symm))
  · intro member inside
    exact inStep.numbered.ne_id (inStep.mem_sockets inside) (Nat.le_of_eq next.symm)

/-! ## What is done at one time -/

/-- What changes neither a mark nor who is at the wire of a socket is not noticed. -/
theorem of_wires (inStep : InStep server) {world : World Relay}
    (sound : world.core.poisoned = false) (sessions : world.sessions = server.world.sessions)
    (closing : ∀ id, (world.wire id).closing = (server.world.wire id).closing)
    (attended : ∀ id, id ∈ server.sockets.map Connection.id ∨ server.requests ≤ id.serial →
      (world.wire id).attended = (server.world.wire id).attended) :
    InStep { server with world := world } := by
  constructor
  case numbered => exact inStep.numbered.congr (.refl _) rfl
  case sound => exact sound
  case staged =>
    intro id
    rw [sessions]
    exact inStep.staged id
  case member_iff =>
    intro connection
    rw [World.member_congr sessions, closing]
    exact inStep.member_iff connection
  case closing_below =>
    intro id closes
    rw [closing] at closes
    exact inStep.closing_below id closes
  case attended =>
    intro id needed
    rw [attended id needed]
    exact inStep.attended id needed
  case arrived =>
    intro id session present
    rw [sessions] at present
    exact inStep.arrived id session present

/-- A request is counted. -/
theorem counted (inStep : InStep server) :
    InStep { server with requests := server.requests + 1 } where
  numbered := inStep.numbered.counted _
  sound := inStep.sound
  staged := inStep.staged
  member_iff := inStep.member_iff
  closing_below id closes := Nat.lt_succ_of_lt (inStep.closing_below id closes)
  attended id needed := inStep.attended id (needed.imp_right Nat.le_of_succ_le)
  arrived := inStep.arrived

/-- Only an end marks anybody. -/
theorem closing_after (inStep : InStep server) {call : HookCall}
    (moves : server.world.Moves call) (stays : ∀ connection, call ≠ .closed connection)
    (id : ConnectionId) :
    ((server.world.after call).wire id).closing = (server.world.wire id).closing := by
  rw [Bool.eq_iff_iff, moves.closing_iff inStep.staged]
  simp [stays]

/-- What is to be seen after a call is who is there then. -/
theorem after_call (inStep : InStep server) {call : HookCall} (moves : server.world.Moves call)
    {sockets : List Connection} {requests : Nat}
    (numbered : Server.Numbered ⟨server.world.after call, sockets, requests⟩)
    (member_iff : ∀ connection, (server.world.after call).Member connection ↔
      connection ∈ sockets ∧ ((server.world.after call).wire connection.id).closing = false)
    (closing_below : ∀ id, ((server.world.after call).wire id).closing = true →
      id.serial < requests)
    (needed_before : ∀ id, id ∈ sockets.map Connection.id ∨ requests ≤ id.serial →
      id ∈ server.sockets.map Connection.id ∨ server.requests ≤ id.serial)
    (arrived : ∀ id session, (server.world.after call).sessions id = some session →
      session.members.Sublist sockets) :
    InStep ⟨server.world.after call, sockets, requests⟩ where
  numbered := numbered
  sound := by
    rw [World.poisoned_after]
    exact inStep.sound
  staged := moves.staged inStep.staged
  member_iff := member_iff
  closing_below := closing_below
  attended id needed := by
    rw [moves.attended]
    exact inStep.attended id (needed_before id needed)
  arrived := arrived

/-- A text changes nothing about who is there. -/
theorem heard (inStep : InStep server) {text : Octets}
    (moves : server.world.Moves (.message socket text)) :
    InStep { server with world := server.world.after (.message socket text) } := by
  have closing := inStep.closing_after moves nofun
  apply inStep.after_call moves
  case numbered => exact inStep.numbered.congr (.refl _) rfl
  case member_iff =>
    intro connection
    rw [moves.member_iff inStep.staged, closing]
    simpa using inStep.member_iff connection
  case closing_below =>
    intro id closes
    rw [closing] at closes
    exact inStep.closing_below id closes
  case needed_before => exact fun _ needed => needed
  case arrived =>
    intro id session present
    rw [← List.append_nil server.sockets]
    exact moves.arrived inStep.arrived present

/-- Who is taken in has the last of the open sockets. -/
theorem taken_in (inStep : InStep server) (connection : Connection)
    (next : connection.id.serial = server.requests)
    (taken : server.world.result (.opened connection) = .ok ()) :
    InStep ⟨server.world.after (.opened connection), server.sockets ++ [connection],
      server.requests + 1⟩ := by
  have moves := inStep.moves_opened next
  have closing := inStep.closing_after moves nofun
  apply inStep.after_call moves
  case numbered => exact inStep.numbered.opened _ next
  case member_iff =>
    intro other
    have unmarked : (server.world.wire connection.id).closing = false := by
      rw [← Bool.not_eq_true]
      intro closes
      have below := inStep.closing_below _ closes
      rw [next] at below
      exact Nat.lt_irrefl _ below
    rw [moves.member_iff inStep.staged, closing, inStep.member_iff, List.mem_append,
      List.mem_singleton]
    constructor
    · rintro (⟨⟨open_, stays⟩, -⟩ | ⟨opens, -⟩)
      · exact ⟨.inl open_, stays⟩
      · cases opens
        exact ⟨.inr rfl, unmarked⟩
    · rintro ⟨open_ | rfl, stays⟩
      · exact .inl ⟨⟨open_, stays⟩, nofun, nofun⟩
      · exact .inr ⟨rfl, taken⟩
  case closing_below =>
    intro id closes
    rw [closing] at closes
    exact Nat.lt_succ_of_lt (inStep.closing_below id closes)
  case needed_before =>
    rintro id (open_ | new)
    · rw [List.map_append, List.mem_append] at open_
      refine open_.imp_right fun newest => ?_
      rw [List.mem_singleton.mp newest]
      exact Nat.le_of_eq next.symm
    · exact .inr (Nat.le_of_succ_le new)
  case arrived =>
    intro id session present
    exact moves.arrived inStep.arrived present

/-- A socket that is let go leaves nothing behind. -/
theorem letGo (inStep : InStep server) {id : ConnectionId}
    (gone : id ∉ server.sockets.map Connection.id) (below : id.serial < server.requests)
    (farewell : Farewell) :
    InStep { server with world := (Service.letGo id farewell server.world).1 } := by
  have sessions : (Service.letGo id farewell server.world).1.sessions = server.world.sessions := rfl
  refine inStep.of_wires inStep.sound sessions (Service.closing_letGo id farewell _) ?_
  intro other needed
  have differs : other ≠ id := by
    rintro rfl
    exact needed.elim gone fun new => Nat.lt_irrefl _ (Nat.lt_of_lt_of_le below new)
  rw [Service.wire_letGo, if_neg differs]

/-- Who is turned away was never there. -/
theorem turned_away (inStep : InStep server) (connection : Connection)
    (next : connection.id.serial = server.requests)
    {error : SignalingError} (refused : server.world.result (.opened connection) = .error error)
    (farewell : Farewell) :
    InStep ⟨(Service.letGo connection.id farewell (server.world.after (.opened connection))).1,
      server.sockets, server.requests + 1⟩ := by
  have moves := inStep.moves_opened next
  rw [World.Moves, refused] at moves
  obtain ⟨sessions, wire⟩ := moves.of_error
  have idle : InStep ⟨server.world.after (.opened connection), server.sockets,
      server.requests + 1⟩ := by
    apply inStep.counted.of_wires _ sessions
    · intro id
      rw [wire]
    · intro id _
      rw [wire]
    · rw [World.poisoned_after]
      exact inStep.sound
  apply idle.letGo
  · intro open_
    obtain ⟨other, listed, same⟩ := List.mem_map.mp open_
    exact inStep.numbered.ne_id listed (Nat.le_of_eq next.symm) same
  · rw [next]
    exact Nat.lt_succ_self _

/-- Who ends, and the partner of that one, who is marked, are members no longer. -/
theorem member_iff_after_closed (inStep : InStep server) (open_ : socket ∈ server.sockets)
    (connection : Connection) :
    (server.world.after (.closed socket)).Member connection ↔
      connection ∈ server.sockets.filter (fun other => other.id ≠ socket.id) ∧
        ((server.world.after (.closed socket)).wire connection.id).closing = false := by
  have moves := inStep.moves_closed open_
  rw [moves.member_iff inStep.staged, inStep.member_iff, List.mem_filter, decide_eq_true_iff,
    ← Bool.not_eq_true, ← Bool.not_eq_true, moves.closing_iff inStep.staged]
  constructor
  · rintro (⟨⟨listed, stays⟩, other, alone⟩ | ⟨opens, -⟩)
    · refine ⟨⟨listed, fun same => ?_⟩, ?_⟩
      · exact other (congrArg _ (inStep.eq_of_id open_ listed same.symm))
      · rintro (closes | ⟨leaver, peer, ends, together, same⟩)
        · exact stays closes
        · cases ends
          have peer_open := inStep.mem_sockets (together.symm.member inStep.staged)
          obtain rfl := inStep.eq_of_id peer_open listed same
          exact alone socket rfl together
    · cases opens
  · rintro ⟨⟨listed, differs⟩, stays⟩
    refine .inl ⟨⟨listed, fun closes => stays (.inl closes)⟩, ?_, ?_⟩
    · intro ends
      cases ends
      exact differs rfl
    · intro leaver ends together
      exact stays (.inr ⟨leaver, connection, ends, together, rfl⟩)

/-- A socket that has ended is open no more, and its partner is marked. -/
theorem ended (inStep : InStep server) (open_ : socket ∈ server.sockets) :
    InStep ⟨server.world.after (.closed socket),
      server.sockets.filter fun other => other.id ≠ socket.id, server.requests⟩ := by
  have moves := inStep.moves_closed open_
  have member_iff := inStep.member_iff_after_closed open_
  apply inStep.after_call moves
  case numbered => exact inStep.numbered.congr List.filter_sublist rfl
  case member_iff => exact member_iff
  case closing_below =>
    intro id closes
    rcases (moves.closing_iff inStep.staged id).mp closes with earlier | marked
    · exact inStep.closing_below id earlier
    · obtain ⟨leaver, peer, ends, together, rfl⟩ := marked
      cases ends
      exact inStep.numbered.below peer
        (inStep.mem_sockets (together.symm.member inStep.staged))
  case needed_before =>
    intro id needed
    refine needed.imp_left fun still => ?_
    exact (List.filter_sublist.map Connection.id).subset still
  case arrived =>
    intro id session present
    have listed : session.members.Sublist (server.sockets ++ []) :=
      moves.arrived inStep.arrived present
    rw [List.append_nil] at listed
    -- Whoever is left in a session is a member still, so none of them is the one that ended.
    have kept : session.members.filter (fun other => other.id ≠ socket.id) = session.members := by
      rw [List.filter_eq_self]
      intro member inside
      obtain rfl := ((moves.staged inStep.staged).stage_of_eq present).session_of_mem inside
      exact (List.mem_filter.mp ((member_iff member).mp ⟨session, present, inside⟩).1).2
    rw [← kept]
    exact listed.filter _

/-! ## Along runs -/

theorem deliver (inStep : InStep server) (id : ConnectionId) :
    InStep (server.deliverTo id).1 := by
  refine inStep.of_wires inStep.sound rfl (server.isClosing_deliverTo id) ?_
  intro other _
  refine (congrArg Wire.attended (server.wire_deliverTo id other)).trans ?_
  split
  · next same =>
    subst same
    rfl
  · rfl

variable (policy : AccessPolicy)

theorem finish (inStep : InStep server) (open_ : socket ∈ server.sockets)
    (farewell : Farewell) :
    InStep (Service.finish ⟨Relay.hooks, policy⟩ socket farewell server).1 := by
  refine (inStep.ended open_).letGo ?_ (inStep.numbered.below socket open_) farewell
  simp

theorem settle (inStep : InStep server) :
    InStep (Service.settle ⟨Relay.hooks, policy⟩ server).1 :=
  Service.settle_induct (fun _ _ farewell here open_ => here.finish policy open_ farewell)
    (fun _ id here => here.deliver id) inStep

theorem react (inStep : InStep server) (open_ : socket ∈ server.sockets)
    (action : ClientAction) :
    InStep (Service.react ⟨Relay.hooks, policy⟩ socket server action).1 := by
  cases action with
  | text id content =>
      have heard := inStep.heard (inStep.moves_message open_ content)
      simp only [Service.react, Service.call]
      split
      · exact heard
      · next error failed =>
        exact heard.finish policy open_ (.frame (some (.ofMessageError error)))
  | close id frame => exact inStep.finish policy open_ (.frame frame)
  | vanish id => exact inStep.finish policy open_ .vanished
  | garbage id => exact inStep.finish policy open_ (.frame none)
  | aside id | connect label address request => exact inStep

theorem connect (inStep : InStep server) (label : String) (address : SocketAddress)
    (request : UpgradeRequest) :
    InStep (Service.connect ⟨Relay.hooks, policy⟩ label address request server).1 := by
  unfold Service.connect Service.receive
  split
  · exact inStep.counted
  · split
    · exact inStep.counted
    · next session admitted =>
      have unchanged : (Relay.hooks.answer (.handshake session) server.world).world =
        server.world := Relay.world_handshake session server.world
      simp only [Service.call, unchanged]
      split
      · exact inStep.counted
      · split
        · next taken =>
          exact inStep.taken_in ⟨_, session, address⟩ rfl taken
        · next error refused =>
          exact inStep.turned_away ⟨_, session, address⟩ rfl refused _

theorem act (inStep : InStep server) (action : ClientAction) :
    InStep (Service.act ⟨Relay.hooks, policy⟩ server action).1 := by
  cases action with
  | connect label address request => exact inStep.connect policy label address request
  | text id content | aside id | close id frame | vanish id | garbage id =>
      simp only [Service.act]
      split
      · exact inStep
      · next socket found =>
        exact inStep.react policy
          ((Server.socket?_eq_some_iff inStep.numbered).mp found).1 _

end InStep

variable (configuration : PeerConfiguration) (policy : AccessPolicy)

/-- What a server with the relay behind it comes to after some actions. -/
def relayAfter (actions : List ClientAction) : Server Relay × List Report :=
  Service.run ⟨Relay.hooks, policy⟩ (.start (Relay.initial configuration)) actions

theorem inStep_relayAfter (actions : List ClientAction) :
    InStep (relayAfter configuration policy actions).1 := by
  induction actions using List.reverseRecOn with
  | nil => exact inStep_start configuration
  | append_singleton past action ih =>
      rw [relayAfter, Service.run_snoc_fst]
      exact (ih.act policy action).settle policy

/-! ## Between steps -/

/-- The registry and the open sockets are two views of one thing. -/
structure MirrorsSockets (server : Server Relay) : Prop where
  /-- A session exists as long as one of its sockets is open. -/
  exists_iff : ∀ id, (server.world.sessions id).isSome = true ↔
    ∃ socket ∈ server.sockets, socket.session = id
  /-- Its members are its open sockets, in the order in which they were opened, -/
  members_eq : ∀ id session, server.world.sessions id = some session →
    session.members = server.sockets.filter fun socket => socket.session = id
  /-- which are two at most. -/
  at_most_two : ∀ id, (server.sockets.filter fun socket => socket.session = id).length ≤ 2
  /-- No open socket is marked for closing. -/
  unmarked : ∀ socket ∈ server.sockets, server.world.wires.isClosing socket.id = false
  /-- Nothing is left where nobody is. -/
  empty_iff : server.world.core.registry = .empty ↔ server.sockets = []

namespace InStep

variable {server : Server Relay}

/-- The members of a session are the open sockets that address it, if none of them is
marked. -/
theorem members_eq (inStep : InStep server)
    (unmarked : ∀ socket ∈ server.sockets, server.world.wires.isClosing socket.id = false)
    {id : SessionId} {session : Session} (present : server.world.sessions id = some session) :
    session.members = server.sockets.filter fun socket => socket.session = id := by
  have at_home : session.members.filter (fun socket => socket.session = id) = session.members := by
    rw [List.filter_eq_self]
    intro member inside
    exact decide_eq_true ((inStep.staged.stage_of_eq present).session_of_mem inside)
  have listed := (inStep.arrived id session present).filter fun socket => socket.session = id
  rw [at_home] at listed
  have once : (server.sockets.filter fun socket => socket.session = id).Nodup :=
    (List.Nodup.of_map Connection.id inStep.numbered.distinct).filter _
  have all : (server.sockets.filter fun socket => socket.session = id) ⊆ session.members := by
    intro socket found
    obtain ⟨open_, address⟩ := List.mem_filter.mp found
    obtain rfl := of_decide_eq_true address
    obtain ⟨other, there, inside⟩ := (inStep.member_iff socket).mpr ⟨open_, unmarked socket open_⟩
    cases present.symm.trans there
    exact inside
  -- The members stand in the order of the sockets already; it is left to count them.
  exact listed.eq_of_length_le (once.subperm all).length_le

theorem exists_iff (inStep : InStep server)
    (unmarked : ∀ socket ∈ server.sockets, server.world.wires.isClosing socket.id = false)
    (id : SessionId) : (server.world.sessions id).isSome = true ↔
      ∃ socket ∈ server.sockets, socket.session = id := by
  constructor
  · intro known
    obtain ⟨session, present⟩ := Option.isSome_iff_exists.mp known
    have stage := inStep.staged.stage_of_eq present
    obtain ⟨member, inside⟩ := stage.exists_mem
    exact ⟨member, (inStep.arrived id session present).subset inside,
      stage.session_of_mem inside⟩
  · rintro ⟨socket, open_, rfl⟩
    obtain ⟨session, present, -⟩ := (inStep.member_iff socket).mpr ⟨open_, unmarked socket open_⟩
    rw [present]
    rfl

theorem mirrorsSockets (inStep : InStep server)
    (unmarked : ∀ socket ∈ server.sockets, server.world.wires.isClosing socket.id = false) :
    MirrorsSockets server where
  exists_iff := inStep.exists_iff unmarked
  members_eq id session := inStep.members_eq unmarked
  at_most_two id := by
    cases present : server.world.sessions id with
    | none =>
        have nobody : (server.sockets.filter fun socket => socket.session = id) = [] := by
          rw [List.filter_eq_nil_iff]
          intro socket open_ address
          have known := (inStep.exists_iff unmarked id).mpr
            ⟨socket, open_, of_decide_eq_true address⟩
          rw [present] at known
          cases known
        rw [nobody]
        exact Nat.zero_le 2
    | some session =>
        rw [← inStep.members_eq unmarked present]
        cases inStep.staged.stage_of_eq present with
        | lone home => exact Nat.le_succ 1
        | pair home home' differ => exact Nat.le_refl 2
  unmarked := unmarked
  empty_iff := by
    constructor
    · intro empty
      rw [List.eq_nil_iff_forall_not_mem]
      intro socket open_
      have known := (inStep.exists_iff unmarked socket.session).mpr ⟨socket, open_, rfl⟩
      rw [World.sessions, empty] at known
      cases known
    · intro nobody
      apply Directory.eq_empty_of_get?
      intro id
      rw [← Option.not_isSome_iff_eq_none]
      intro known
      obtain ⟨socket, open_, -⟩ := (inStep.exists_iff unmarked id).mp known
      rw [nobody] at open_
      cases open_

end InStep

/-! ## Departures -/

section

variable {σ : Type} (service : Service σ) (server : Server σ)

theorem sublist_react (socket : Connection) (action : ClientAction) :
    (service.react socket server action).1.sockets.Sublist server.sockets := by
  cases action with
  | text id content =>
      simp only [Service.react]
      split
      · exact .refl _
      · exact List.filter_sublist
  | close id frame | vanish id | garbage id => exact List.filter_sublist
  | aside id | connect label address request => exact .refl _

theorem sublist_act {action : ClientAction} (quiet : action.knock? = none) :
    (service.act server action).1.sockets.Sublist server.sockets := by
  cases action with
  | connect label address request => cases quiet
  | text id content | aside id | close id frame | vanish id | garbage id =>
      simp only [Service.act]
      split
      · exact .refl _
      · exact sublist_react service server _ _

/-- Where nobody asks for a connection no socket is opened. -/
theorem sublist_run {actions : List ClientAction}
    (quiet : ∀ action ∈ actions, action.knock? = none) :
    (service.run server actions).1.sockets.Sublist server.sockets := by
  induction actions using List.reverseRecOn with
  | nil => exact .refl _
  | append_singleton past action ih =>
      rw [Service.run_snoc_fst]
      have settled := (Service.sublist_settle service
        (service.act (service.run server past).1 action).1).1
      have acted := sublist_act service (service.run server past).1 (quiet action (by simp))
      have before := ih fun earlier listed => quiet earlier (List.mem_append_left _ listed)
      exact (settled.trans acted).trans before

/-- When all clients have gone, and nobody else has come, no socket is open. -/
theorem sockets_of_departures (world : World σ) {actions departures : List ClientAction}
    (quiet : ∀ action ∈ departures, action.knock? = none)
    (gone : ∀ socket ∈ (service.run (.start world) actions).1.sockets,
      ∃ action ∈ departures, action.ends? = some socket.id) :
    (service.run (.start world) (actions ++ departures)).1.sockets = [] := by
  rw [List.eq_nil_iff_forall_not_mem]
  intro socket open_
  have earlier : socket ∈ (service.run (.start world) actions).1.sockets := by
    rw [Service.run_append] at open_
    exact (sublist_run service _ quiet).subset open_
  obtain ⟨action, made, ends⟩ := gone socket earlier
  obtain ⟨before, after, rfl⟩ := List.append_of_mem made
  have others : ∀ other ∈ after, other.knock? = none := fun other listed =>
    quiet other (List.mem_append_right _ (List.mem_cons_of_mem _ listed))
  have parts : actions ++ (before ++ action :: after) =
      (actions ++ before) ++ [action] ++ after := by simp
  rw [parts, Service.run_append] at open_
  have still := (sublist_run service _ others).subset open_
  have closed := socket?_of_ends service world ends (actions ++ before)
  rw [Server.socket?, List.find?_eq_none] at closed
  exact closed socket still (decide_eq_true rfl)

end

theorem mirrorsSockets_relayAfter (actions : List ClientAction) :
    MirrorsSockets (relayAfter configuration policy actions).1 :=
  (inStep_relayAfter configuration policy actions).mirrorsSockets
    (Service.isClosing_run _ _ actions)

/-- A server with the relay behind it keeps the registry and its open sockets in step. -/
structure RegistryMirrorsSockets : Prop where
  after_every_step : ∀ actions, MirrorsSockets (relayAfter configuration policy actions).1
  /-- A socket is open from the time when its connection was taken in until its end. -/
  open_iff : ∀ actions connection,
    connection ∈ (relayAfter configuration policy actions).1.sockets ↔
      ⟨.opened connection, .ok ()⟩ ∈
          told connection.id (relayAfter configuration policy actions).2 ∧
        .closed connection ∉
          (told connection.id (relayAfter configuration policy actions).2).map Told.call
  /-- Nothing is left when all who were taken in have come to their end, -/
  forgotten : ∀ actions,
    (∀ connection, ⟨.opened connection, .ok ()⟩ ∈
        told connection.id (relayAfter configuration policy actions).2 →
      .closed connection ∈
        (told connection.id (relayAfter configuration policy actions).2).map Told.call) →
    (relayAfter configuration policy actions).1.world.core.registry = .empty
  /-- as they do once all clients have gone and nobody else has come, whatever is done in
  the meantime. -/
  deserted : ∀ actions (departures : List ClientAction),
    (∀ action ∈ departures, action.knock? = none) →
    (∀ socket ∈ (relayAfter configuration policy actions).1.sockets,
      ∃ action ∈ departures, action.ends? = some socket.id) →
    (relayAfter configuration policy (actions ++ departures)).1.world.core.registry = .empty

theorem registryMirrorsSockets : RegistryMirrorsSockets configuration policy where
  after_every_step := mirrorsSockets_relayAfter configuration policy
  open_iff := mem_sockets_iff ⟨Relay.hooks, policy⟩ (Relay.initial configuration)
  forgotten actions ended := by
    rw [(mirrorsSockets_relayAfter configuration policy actions).empty_iff,
      List.eq_nil_iff_forall_not_mem]
    intro socket open_
    obtain ⟨opened, stays⟩ := (mem_sockets_iff _ _ actions socket).mp open_
    exact stays (ended socket opened)
  deserted actions departures quiet gone := by
    rw [(mirrorsSockets_relayAfter configuration policy _).empty_iff]
    exact sockets_of_departures _ _ quiet gone

end Rendezvous
