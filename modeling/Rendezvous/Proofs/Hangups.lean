/-
# Carrying out hang-ups

When an action has been carried out the sockets that it marked are still open. They are ended
one after the other, with the word that the other party has left, and whatever is on a wire
is delivered. Nobody is marked by that, since the partner of a marked socket is gone already;
so who is not marked stays.
-/

import Rendezvous.Proofs.Receipts

namespace Rendezvous

variable {configuration : PeerConfiguration} {server server' : Server Relay}
  {reports reports' : List Report}

/-- The end of a socket marks those that its hook marks. -/
theorem closing_finish (policy : AccessPolicy) (socket : Connection) (farewell : Farewell)
    (server : Server Relay) (id : ConnectionId) :
    ((Service.finish ⟨Relay.hooks, policy⟩ socket farewell server).1.world.wire id).closing =
      ((server.world.after (.closed socket)).wire id).closing :=
  Service.closing_letGo socket.id farewell _ id

/-- What settling comes to on the way. -/
structure Settles (configuration : PeerConfiguration) (server : Server Relay)
    (reports : List Report) (server' : Server Relay) (reports' : List Report) : Prop where
  advances : Advances configuration server reports server' reports'
  sockets : server'.sockets ⊆ server.sockets
  requests : server'.requests = server.requests
  /-- Nobody else is marked. -/
  closing : ∀ id, (server'.world.wire id).closing = (server.world.wire id).closing
  /-- Who is not marked stays. -/
  kept : ∀ socket ∈ server.sockets, (server.world.wire socket.id).closing = false →
    socket ∈ server'.sockets
  /-- Who was ended was told that the other party has left. -/
  ended : ∀ socket ∈ server.sockets, socket ∉ server'.sockets →
    LetGoWith configuration socket.id (some .peerLeft) reports'

namespace Settles

theorem refl (tracks : Tracks configuration server reports) :
    Settles configuration server reports server reports where
  advances := tracks.refl
  sockets := List.Subset.refl _
  requests := rfl
  closing _ := rfl
  kept _ open_ _ := open_
  ended _ open_ gone := absurd open_ gone

variable (settles : Settles configuration server reports server' reports')
  {socket : Connection}

include settles

/-- Nothing is expected any more of a socket that was ended. -/
theorem not_expects (inStep : InStep server) (open_ : socket ∈ server.sockets)
    (gone : socket ∉ server'.sockets) : ¬ server'.Expects socket.id := by
  rintro (listed | new)
  · obtain ⟨other, here, same⟩ := List.mem_map.mp listed
    rw [inStep.eq_of_id (settles.sockets here) open_ same] at here
    exact gone here
  · rw [settles.requests] at new
    exact Nat.not_le_of_lt (inStep.numbered.below socket open_) new

theorem deliverTo (inStep : InStep server) (open_ : socket ∈ server'.sockets) :
    Settles configuration server reports (server'.deliverTo socket.id).1
      (reports' ++ (server'.deliverTo socket.id).2) where
  advances := settles.advances.trans (settles.advances.tracks.deliverTo open_)
  sockets := settles.sockets
  requests := settles.requests
  closing id := (server'.isClosing_deliverTo socket.id id).trans (settles.closing id)
  kept := settles.kept
  ended other here gone :=
    (settles.advances.tracks.deliverTo open_).letGoWith (settles.not_expects inStep here gone)
      (settles.ended other here gone)

theorem deliverAll (inStep : InStep server) {sockets : List Connection}
    (open_ : sockets ⊆ server'.sockets) :
    Settles configuration server reports (server'.deliverAll sockets).1
      (reports' ++ (server'.deliverAll sockets).2) := by
  induction sockets generalizing server' reports' with
  | nil =>
      rw [Server.deliverAll, List.append_nil]
      exact settles
  | cons first rest ih =>
      obtain ⟨here, others⟩ := List.cons_subset.mp open_
      rw [Server.deliverAll_cons, ← List.append_assoc]
      exact ih (settles.deliverTo inStep here) others

variable (policy : AccessPolicy)

/-- Who is marked is no member any more, so nobody else is marked at the end. -/
theorem finish (inStep : InStep server) (open_ : socket ∈ server'.sockets)
    (marked : (server'.world.wire socket.id).closing = true) :
    Settles configuration server reports
      (Service.finish ⟨Relay.hooks, policy⟩ socket (.frame (some .peerLeft)) server').1
      (reports' ++
        (Service.finish ⟨Relay.hooks, policy⟩ socket (.frame (some .peerLeft)) server').2) := by
  have tracks := settles.advances.tracks
  have ends := tracks.finish policy open_ (.frame (some .peerLeft))
  constructor
  case advances => exact settles.advances.trans ends
  case sockets => exact fun other here => settles.sockets (List.mem_filter.mp here).1
  case requests => exact settles.requests
  case closing =>
    intro id
    rw [closing_finish, ← settles.closing, Bool.eq_iff_iff,
      (tracks.inStep.moves_closed open_).closing_iff tracks.inStep.staged]
    refine or_iff_left ?_
    rintro ⟨leaver, peer, closed, together, -⟩
    cases closed
    have member := (tracks.inStep.member_iff _).mp (together.member tracks.inStep.staged)
    rw [marked] at member
    cases member.2
  case kept =>
    intro other here unmarked
    refine List.mem_filter.mpr ⟨settles.kept other here unmarked, decide_eq_true ?_⟩
    intro same
    rw [settles.closing, ← same, unmarked] at marked
    cases marked
  case ended =>
    intro other here gone
    by_cases still : other ∈ server'.sockets
    · have same : other.id = socket.id := by
        by_contra apart
        exact gone (List.mem_filter.mpr ⟨still, decide_eq_true apart⟩)
      rw [tracks.inStep.eq_of_id still open_ same]
      exact tracks.letGoWith policy open_ _
    · exact ends.letGoWith (settles.not_expects inStep here still) (settles.ended other here still)

theorem within (inStep : InStep server) (fuel : Nat) :
    Settles configuration server reports
      (Service.settleWithin ⟨Relay.hooks, policy⟩ fuel server').1
      (reports' ++ (Service.settleWithin ⟨Relay.hooks, policy⟩ fuel server').2) := by
  induction fuel generalizing server' reports' with
  | zero => exact settles.deliverAll inStep (List.Subset.refl _)
  | succ fuel ih =>
      unfold Service.settleWithin
      cases found : server'.sockets.find? fun socket =>
          server'.world.wires.isClosing socket.id with
      | none => exact settles.deliverAll inStep (List.Subset.refl _)
      | some socket =>
          have marked : server'.world.wires.isClosing socket.id = true := by
            simpa using List.find?_some found
          have ended := settles.finish policy inStep (List.mem_of_find?_eq_some found) marked
          have settled := ih ended
          rw [List.append_assoc] at settled
          exact settled

end Settles

theorem Tracks.settle (tracks : Tracks configuration server reports) (policy : AccessPolicy) :
    Settles configuration server reports (Service.settle ⟨Relay.hooks, policy⟩ server).1
      (reports ++ (Service.settle ⟨Relay.hooks, policy⟩ server).2) :=
  (Settles.refl tracks).within policy tracks.inStep _

/-- Settling ends the sockets that are marked and no others. -/
theorem Tracks.mem_settle_iff (tracks : Tracks configuration server reports)
    (policy : AccessPolicy) {socket : Connection} (open_ : socket ∈ server.sockets) :
    socket ∈ (Service.settle ⟨Relay.hooks, policy⟩ server).1.sockets ↔
      (server.world.wire socket.id).closing = false := by
  have settles := tracks.settle policy
  constructor
  · intro still
    rw [← settles.closing]
    exact Service.isClosing_settle ⟨Relay.hooks, policy⟩ server socket still
  · exact settles.kept socket open_

end Rendezvous
