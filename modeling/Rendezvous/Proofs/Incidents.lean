/-
# Incidents

A transport calls hooks; meanwhile clients take what has been sent to them, and the
receiving end of a connection may be gone at any moment, whether the transport has
noticed it or not. A run is a list of such incidents, the oldest first, in any order at
all: nothing is promised here about the calls. What is put on a wire along a run is
counted for good, also when it was taken off since or lost with its receiver.
-/

import Rendezvous.Proofs.Provenance

namespace Rendezvous

/-- What may happen to a relay. -/
inductive Incident
  | call (call : HookCall)
  /-- A client takes what is on its wire. -/
  | collected (id : ConnectionId)
  /-- The receiving end of a wire is gone. -/
  | abandoned (id : ConnectionId)
  deriving DecidableEq, Repr

namespace World

/-- The world after an incident. -/
def incur (world : World Relay) : Incident → World Relay
  | .call call => world.after call
  | .collected id => world.withWires (world.wires.collect id).2
  | .abandoned id => world.withWires (world.wires.abandon id)

/-- The world after all incidents of a run. -/
def incurAll (world : World Relay) (run : List Incident) : World Relay :=
  run.foldl incur world

theorem incurAll_append (world : World Relay) (first second : List Incident) :
    world.incurAll (first ++ second) = (world.incurAll first).incurAll second :=
  List.foldl_append

theorem incurAll_snoc (world : World Relay) (run : List Incident) (incident : Incident) :
    world.incurAll (run ++ [incident]) = (world.incurAll run).incur incident :=
  incurAll_append world run [incident]

theorem wire_collected (world : World Relay) (id other : ConnectionId) :
    (world.incur (.collected id)).wire other =
      if other = id then (world.wire id).drained else world.wire other :=
  Switchboard.wire_collect world.wires id other

theorem wire_abandoned (world : World Relay) (id other : ConnectionId) :
    (world.incur (.abandoned id)).wire other =
      if other = id then (world.wire id).cut else world.wire other :=
  Switchboard.wire_abandon world.wires id other

@[simp] theorem poisoned_incur (world : World Relay) (incident : Incident) :
    (world.incur incident).core.poisoned = world.core.poisoned := by
  cases incident with
  | call call => exact poisoned_after world call
  | collected id | abandoned id => rfl

@[simp] theorem configuration_incur (world : World Relay) (incident : Incident) :
    (world.incur incident).core.configuration = world.core.configuration := by
  cases incident with
  | call call => exact configuration_after world call
  | collected id | abandoned id => rfl

@[simp] theorem poisoned_incurAll_eq (world : World Relay) (run : List Incident) :
    (world.incurAll run).core.poisoned = world.core.poisoned := by
  induction run using List.reverseRecOn with
  | nil => rfl
  | append_singleton past incident ih => rw [incurAll_snoc, poisoned_incur, ih]

theorem poisoned_incurAll (configuration : PeerConfiguration) (run : List Incident) :
    ((Relay.initial configuration).incurAll run).core.poisoned = false :=
  poisoned_incurAll_eq (Relay.initial configuration) run

theorem configuration_incurAll (configuration : PeerConfiguration) (run : List Incident) :
    ((Relay.initial configuration).incurAll run).core.configuration = configuration := by
  induction run using List.reverseRecOn with
  | nil => rfl
  | append_singleton past incident ih => rw [incurAll_snoc, configuration_incur, ih]

/-- The notices that an incident puts on a wire. -/
def gained (world : World Relay) (id : ConnectionId) : Incident → List Payload
  | .call call => world.added call id
  | .collected _ | .abandoned _ => []

/-- All notices that were put on a wire along a run. -/
def gainedAlong (world : World Relay) (id : ConnectionId) : List Incident → List Payload
  | [] => []
  | incident :: rest =>
    world.gained id incident ++ (world.incur incident).gainedAlong id rest

theorem gainedAlong_snoc (world : World Relay) (id : ConnectionId) (run : List Incident)
    (incident : Incident) :
    world.gainedAlong id (run ++ [incident]) =
      world.gainedAlong id run ++ (world.incurAll run).gained id incident := by
  induction run generalizing world with
  | nil => exact List.append_nil _
  | cons first rest ih =>
      rw [List.cons_append, gainedAlong, gainedAlong, ih, List.append_assoc]
      rfl

end World

end Rendezvous
