/-
# What settling leaves

After every action a server carries out all that follows from it: sockets that are marked
for closing are ended, one after the other, and messages are delivered. Each ending takes
a socket away, so this comes to an end with no open socket marked, whatever the hooks do.
Open sockets keep different numbers, all below that of the next request.
-/

import Mathlib.Data.List.Induction
import Mathlib.Data.List.Nodup
import Rendezvous.Proofs.History
import Rendezvous.Server.Basic

namespace Rendezvous

variable {σ : Type}

namespace Server

variable {server : Server σ}

/-- Open sockets are told apart by their identifiers, and every further request gets a new
one. -/
structure Numbered (server : Server σ) : Prop where
  distinct : (server.sockets.map Connection.id).Nodup
  below : ∀ socket ∈ server.sockets, socket.id.serial < server.requests

theorem numbered_start (world : World σ) : (start world).Numbered :=
  ⟨List.nodup_nil, nofun⟩

theorem socket?_eq_some_iff (numbered : server.Numbered) {id : ConnectionId}
    {socket : Connection} :
    server.socket? id = some socket ↔ socket ∈ server.sockets ∧ socket.id = id := by
  constructor
  · intro found
    exact ⟨List.mem_of_find?_eq_some found, by simpa using List.find?_some found⟩
  · rintro ⟨open_, rfl⟩
    cases found : server.socket? socket.id with
    | none => simpa using List.find?_eq_none.mp found socket open_
    | some other =>
        have same : other.id = socket.id := by simpa using List.find?_some found
        have listed := List.mem_of_find?_eq_some found
        rw [List.inj_on_of_nodup_map numbered.distinct listed open_ same]

theorem Numbered.congr {other : Server σ} (numbered : server.Numbered)
    (sockets : other.sockets.Sublist server.sockets) (requests : other.requests = server.requests) :
    other.Numbered where
  distinct := numbered.distinct.sublist (sockets.map Connection.id)
  below socket open_ := requests ▸ numbered.below socket (sockets.subset open_)

/-- A number that no request has had is the number of no open socket. -/
theorem Numbered.ne_id (numbered : server.Numbered) {socket : Connection}
    (open_ : socket ∈ server.sockets) {id : ConnectionId}
    (new : server.requests ≤ id.serial) : socket.id ≠ id := by
  rintro rfl
  exact Nat.not_le_of_lt (numbered.below socket open_) new

theorem Numbered.socket?_eq_none (numbered : server.Numbered) {id : ConnectionId}
    (new : server.requests ≤ id.serial) : server.socket? id = none := by
  unfold socket?
  rw [List.find?_eq_none]
  intro socket open_ same
  exact numbered.ne_id open_ new (of_decide_eq_true same)

/-- A request may be counted without anything being opened. -/
theorem Numbered.counted (numbered : server.Numbered) (world : World σ) :
    Numbered ⟨world, server.sockets, server.requests + 1⟩ where
  distinct := numbered.distinct
  below socket open_ := Nat.lt_succ_of_lt (numbered.below socket open_)

/-- A socket is opened under the number of the last request. -/
theorem Numbered.opened (numbered : server.Numbered) (world : World σ) {socket : Connection}
    (last : socket.id.serial = server.requests) :
    Numbered ⟨world, server.sockets ++ [socket], server.requests + 1⟩ where
  distinct := by
    rw [List.map_append, List.nodup_append]
    refine ⟨numbered.distinct, List.nodup_singleton _, ?_⟩
    intro id earlier newest only same
    obtain ⟨other, open_, rfl⟩ := List.mem_map.mp earlier
    rw [List.mem_singleton.mp only] at same
    exact numbered.ne_id open_ (Nat.le_of_eq last.symm) same
  below other open_ := by
    rcases List.mem_append.mp open_ with earlier | only
    · exact Nat.lt_succ_of_lt (numbered.below other earlier)
    · rw [List.mem_singleton.mp only, last]
      exact Nat.lt_succ_self _

end Server

/-! ## What an ending and a delivery do -/

namespace Server

variable (server : Server σ) (id : ConnectionId)

theorem wire_deliverTo (other : ConnectionId) :
    (server.deliverTo id).1.world.wire other =
      if other = id then (server.world.wire id).drained else server.world.wire other :=
  Switchboard.wire_collect server.world.wires id other

/-- Taking messages off a wire marks nobody. -/
@[simp] theorem isClosing_deliverTo (other : ConnectionId) :
    (server.deliverTo id).1.world.wires.isClosing other = server.world.wires.isClosing other := by
  refine (congrArg Wire.closing (server.wire_deliverTo id other)).trans ?_
  split
  · next same =>
    subst same
    rfl
  · rfl

/-- What every delivery preserves, the delivery to all sockets preserves. -/
theorem deliverAll_induct {P : Server σ → Prop}
    (deliver : ∀ server id, P server → P (server.deliverTo id).1) (sockets : List Connection)
    {server : Server σ} (here : P server) : P (server.deliverAll sockets).1 := by
  induction sockets generalizing server with
  | nil => exact here
  | cons socket rest ih => exact ih (deliver server socket.id here)

theorem deliverAll_cons (socket : Connection) (rest : List Connection) :
    server.deliverAll (socket :: rest) =
      (((server.deliverTo socket.id).1.deliverAll rest).1,
        (server.deliverTo socket.id).2 ++ ((server.deliverTo socket.id).1.deliverAll rest).2) :=
  rfl

theorem sockets_deliverAll (sockets : List Connection) :
    (server.deliverAll sockets).1.sockets = server.sockets :=
  deliverAll_induct (P := fun after => after.sockets = server.sockets)
    (fun _ _ same => same) sockets rfl

/-- Nothing is left on the wires that messages are taken off. -/
theorem outbox_deliverAll (sockets : List Connection) :
    ∀ socket ∈ sockets, ((server.deliverAll sockets).1.world.wire socket.id).outbox = [] := by
  induction sockets generalizing server with
  | nil => nofun
  | cons first rest ih =>
      refine List.forall_mem_cons.mpr ⟨?_, ih (server.deliverTo first.id).1⟩
      -- What was taken off one wire does not come back when others are emptied.
      rw [deliverAll_cons]
      apply deliverAll_induct (P := fun after => (after.world.wire first.id).outbox = [])
      · intro after id empty
        rw [wire_deliverTo]
        split
        · rfl
        · exact empty
      · rw [wire_deliverTo, if_pos rfl]
        rfl

/-- Nothing is left to do for an open socket. -/
structure AtRest (server : Server σ) : Prop where
  unmarked : ∀ socket ∈ server.sockets, server.world.wires.isClosing socket.id = false
  delivered : ∀ socket ∈ server.sockets, (server.world.wire socket.id).outbox = []

/-- Where nothing is on the wires, delivery changes nothing. -/
theorem deliverAll_of_empty {server : Server σ} {sockets : List Connection}
    (empty : ∀ socket ∈ sockets, (server.world.wire socket.id).outbox = []) :
    ∃ wires : Switchboard, server.deliverAll sockets =
      ({ server with world := server.world.withWires wires }, []) ∧
        ∀ id, wires.wire id = server.world.wire id := by
  induction sockets generalizing server with
  | nil => exact ⟨server.world.wires, rfl, fun _ => rfl⟩
  | cons first rest ih =>
      obtain ⟨nothing, others⟩ := List.forall_mem_cons.mp empty
      have still (id : ConnectionId) :
          (server.deliverTo first.id).1.world.wire id = server.world.wire id := by
        rw [wire_deliverTo]
        split
        · next same =>
          rw [same, Wire.drained, ← nothing]
        · rfl
      have empty' (socket : Connection) (listed : socket ∈ rest) :
          ((server.deliverTo first.id).1.world.wire socket.id).outbox = [] := by
        rw [still, others socket listed]
      obtain ⟨wires, done, same⟩ := ih empty'
      refine ⟨wires, ?_, fun id => (same id).trans (still id)⟩
      have unreported : (server.deliverTo first.id).2 = [] :=
        congrArg (List.map (Report.delivered first.id)) nothing
      rw [deliverAll_cons, done, unreported]
      rfl

end Server

namespace Service

variable (service : Service σ)

@[simp] theorem sockets_finish (socket : Connection) (farewell : Farewell) (server : Server σ) :
    (service.finish socket farewell server).1.sockets =
      server.sockets.filter fun other => other.id ≠ socket.id := rfl

/-- The wire of a socket that is let go is cut, and no other. -/
theorem wire_letGo (id : ConnectionId) (farewell : Farewell) (world : World σ)
    (other : ConnectionId) :
    (letGo id farewell world).1.wire other =
      if other = id then (world.wire id).drained.cut else world.wire other := by
  refine (Switchboard.wire_abandon _ id other).trans ?_
  rw [Switchboard.wire_set, Switchboard.wire_set, if_pos rfl]
  split <;> rfl

theorem closing_letGo (id : ConnectionId) (farewell : Farewell) (world : World σ)
    (other : ConnectionId) :
    ((letGo id farewell world).1.wire other).closing = (world.wire other).closing := by
  rw [wire_letGo]
  split
  · next same =>
    subst same
    rfl
  · rfl

variable {service}

/-- What every ending of an open socket and every delivery preserves, settling preserves. -/
theorem settle_induct {P : Server σ → Prop}
    (finish : ∀ server socket farewell, P server → socket ∈ server.sockets →
      P (service.finish socket farewell server).1)
    (deliver : ∀ server id, P server → P (server.deliverTo id).1) {server : Server σ}
    (here : P server) : P (service.settle server).1 := by
  have within (fuel : Nat) : ∀ server, P server → P (service.settleWithin fuel server).1 := by
    induction fuel with
    | zero => exact fun server here => Server.deliverAll_induct deliver server.sockets here
    | succ fuel ih =>
        intro server here
        unfold settleWithin
        cases found : server.sockets.find? fun socket =>
            server.world.wires.isClosing socket.id with
        | none => exact Server.deliverAll_induct deliver server.sockets here
        | some socket =>
            exact ih _ (finish server socket _ here (List.mem_of_find?_eq_some found))
  exact within _ server here

/-- An ended socket is not open any more. -/
theorem length_sockets_finish_lt (service : Service σ) {server : Server σ}
    {socket : Connection} (open_ : socket ∈ server.sockets) (farewell : Farewell) :
    (service.finish socket farewell server).1.sockets.length < server.sockets.length := by
  rw [sockets_finish]
  exact List.length_filter_lt_length_iff_exists.mpr ⟨socket, open_, by simp⟩

/-- No open socket is marked when everything is carried out. -/
theorem isClosing_settle (service : Service σ) (server : Server σ) :
    ∀ socket ∈ (service.settle server).1.sockets,
      (service.settle server).1.world.wires.isClosing socket.id = false := by
  have delivered (server : Server σ)
      (unmarked : ∀ socket ∈ server.sockets, server.world.wires.isClosing socket.id = false) :
      ∀ socket ∈ (server.deliverAll server.sockets).1.sockets,
        (server.deliverAll server.sockets).1.world.wires.isClosing socket.id = false := by
    apply Server.deliverAll_induct (P := fun after => ∀ socket ∈ after.sockets,
      after.world.wires.isClosing socket.id = false) _ server.sockets unmarked
    intro server id unmarked socket open_
    rw [Server.isClosing_deliverTo]
    exact unmarked socket open_
  have within (fuel : Nat) : ∀ server : Server σ, server.sockets.length ≤ fuel →
      ∀ socket ∈ (service.settleWithin fuel server).1.sockets,
        (service.settleWithin fuel server).1.world.wires.isClosing socket.id = false := by
    induction fuel with
    | zero =>
        intro server enough
        apply delivered
        rw [List.length_eq_zero_iff.mp (Nat.le_zero.mp enough)]
        nofun
    | succ fuel ih =>
        intro server enough
        unfold settleWithin
        cases found : server.sockets.find? fun socket =>
            server.world.wires.isClosing socket.id with
        | none =>
            apply delivered
            simpa using List.find?_eq_none.mp found
        | some socket =>
            have shorter := length_sockets_finish_lt service
              (List.mem_of_find?_eq_some found) (.frame (some .peerLeft))
            exact ih _ (by omega)
  exact within _ server (Nat.le_refl _)

/-- Nothing is left on the wire of an open socket when everything is carried out. -/
theorem outbox_settle (service : Service σ) (server : Server σ) :
    ∀ socket ∈ (service.settle server).1.sockets,
      ((service.settle server).1.world.wire socket.id).outbox = [] := by
  have within (fuel : Nat) : ∀ server : Server σ,
      ∀ socket ∈ (service.settleWithin fuel server).1.sockets,
        ((service.settleWithin fuel server).1.world.wire socket.id).outbox = [] := by
    have delivered (server : Server σ) : ∀ socket ∈ (server.deliverAll server.sockets).1.sockets,
        ((server.deliverAll server.sockets).1.world.wire socket.id).outbox = [] := by
      rw [Server.sockets_deliverAll]
      exact server.outbox_deliverAll server.sockets
    induction fuel with
    | zero => exact delivered
    | succ fuel ih =>
        intro server
        unfold settleWithin
        split
        · exact delivered server
        · exact ih _
  exact within _ server

/-- Settling opens no socket and takes no request. -/
theorem sublist_settle (service : Service σ) (server : Server σ) :
    (service.settle server).1.sockets.Sublist server.sockets ∧
      (service.settle server).1.requests = server.requests := by
  apply settle_induct (P := fun after =>
    after.sockets.Sublist server.sockets ∧ after.requests = server.requests)
  · intro after socket farewell ⟨sockets, requests⟩ _
    exact ⟨List.filter_sublist.trans sockets, requests⟩
  · intro after id here
    exact here
  · exact ⟨.refl _, rfl⟩

theorem atRest_settle (service : Service σ) (server : Server σ) :
    (service.settle server).1.AtRest :=
  ⟨isClosing_settle service server, outbox_settle service server⟩

/-- Where nobody is marked, all that is left to do is to deliver. -/
theorem settle_of_unmarked (service : Service σ) {server : Server σ}
    (unmarked : ∀ socket ∈ server.sockets, server.world.wires.isClosing socket.id = false) :
    service.settle server = server.deliverAll server.sockets := by
  have nobody : server.sockets.find? (fun socket => server.world.wires.isClosing socket.id) =
      none := by
    simpa using unmarked
  unfold settle
  cases server.sockets.length with
  | zero => rfl
  | succ fuel => rw [settleWithin, nobody]

/-- Nothing comes of settling where nothing is left to do. -/
theorem settle_of_atRest (service : Service σ) {server : Server σ} (rest : server.AtRest) :
    ∃ wires : Switchboard, service.settle server =
      ({ server with world := server.world.withWires wires }, []) ∧
        ∀ id, wires.wire id = server.world.wire id := by
  rw [settle_of_unmarked service rest.unmarked]
  exact Server.deliverAll_of_empty rest.delivered

/-! ## Runs -/

theorem run_append (service : Service σ) (server : Server σ)
    (first second : List ClientAction) :
    service.run server (first ++ second) =
      ((service.run (service.run server first).1 second).1,
        (service.run server first).2 ++ (service.run (service.run server first).1 second).2) := by
  induction first generalizing server with
  | nil => rfl
  | cons action rest ih => simp [run, ih]

/-- A run ends with its last step. -/
theorem run_snoc (service : Service σ) (server : Server σ) (past : List ClientAction)
    (action : ClientAction) :
    service.run server (past ++ [action]) =
      ((service.step (service.run server past).1 action).1,
        (service.run server past).2 ++ (service.step (service.run server past).1 action).2) := by
  rw [run_append]
  exact congrArg (fun later => (_, _ ++ later)) (List.append_nil _)

/-- A run ends with its last action and what follows from that. -/
theorem run_snoc_fst (service : Service σ) (server : Server σ) (past : List ClientAction)
    (action : ClientAction) :
    (service.run server (past ++ [action])).1 =
      (service.settle (service.act (service.run server past).1 action).1).1 := by
  rw [run_append]
  rfl

/-- No open socket is marked between two steps. -/
theorem isClosing_run (service : Service σ) (world : World σ) (actions : List ClientAction) :
    ∀ socket ∈ (service.run (.start world) actions).1.sockets,
      (service.run (.start world) actions).1.world.wires.isClosing socket.id = false := by
  cases actions using List.reverseRecOn with
  | nil => nofun
  | append_singleton past action =>
      rw [run_snoc_fst]
      exact isClosing_settle service _

/-- Nothing is left to do between two steps. -/
theorem atRest_run (service : Service σ) (world : World σ) (actions : List ClientAction) :
    (service.run (.start world) actions).1.AtRest := by
  cases actions using List.reverseRecOn with
  | nil => exact ⟨nofun, nofun⟩
  | append_singleton past action =>
      rw [run_snoc_fst]
      exact atRest_settle service _

end Service

end Rendezvous
