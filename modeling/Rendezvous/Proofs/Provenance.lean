/-
# Who is heard on a wire

Each notice that a call puts on a wire was said by somebody: what a text brings was said
by the one who sent it, and what is handed over at an opening by those whose entries have
waited. `heardAlong` lists the notices of a wire in this way, each with its speaker. While
the transport keeps its promise nobody has two partners, what a connection says goes to
its partner's wire alone, and a connection hears nobody but its partner.
-/

import Rendezvous.Proofs.Delivery

namespace Rendezvous

open Function (update)

/-- A notice on a wire, and who has said it. -/
structure Heard where
  speaker : ConnectionId
  data : Payload
  deriving DecidableEq, Repr

namespace World

/-- The notices that a call adds to a wire. -/
def added (world : World Relay) (call : HookCall) (id : ConnectionId) : List Payload :=
  ((world.after call).wire id).notices.drop (world.wire id).notices.length

/-- Who has said what a call puts on wires, in the order in which it is put there. -/
def speakers (world : World Relay) : HookCall → List ConnectionId
  | .message connection _ => [connection.id]
  | .opened connection => (world.session connection.session).pending.map PendingEntry.sender
  | .handshake _ | .closed _ => []

/-- What a call lets be heard on a wire, and from whom. -/
def heard (world : World Relay) (call : HookCall) (id : ConnectionId) : List Heard :=
  List.zipWith Heard.mk (world.speakers call) (world.added call id)

/-- What is heard on a wire along a history, and from whom. -/
def heardAlong (world : World Relay) (id : ConnectionId) : History → List Heard
  | [] => []
  | call :: rest => world.heard call id ++ (world.after call).heardAlong id rest

theorem heardAlong_append (world : World Relay) (id : ConnectionId) (first second : History) :
    world.heardAlong id (first ++ second) =
      world.heardAlong id first ++ (world.afterAll first).heardAlong id second := by
  induction first generalizing world with
  | nil => rfl
  | cons call rest ih =>
      rw [List.cons_append, heardAlong, heardAlong, ih, List.append_assoc, afterAll_cons]

theorem heardAlong_snoc (world : World Relay) (id : ConnectionId) (past : History)
    (call : HookCall) :
    world.heardAlong id (past ++ [call]) =
      world.heardAlong id past ++ (world.afterAll past).heard call id := by
  rw [heardAlong_append, heardAlong, heardAlong, List.append_nil]

theorem added_of_append {world : World Relay} {call : HookCall} {id : ConnectionId}
    {more : List Payload}
    (longer : ((world.after call).wire id).notices = (world.wire id).notices ++ more) :
    world.added call id = more := by
  rw [added, longer, List.drop_left]

end World

namespace Move

variable {before after : World Relay} {call : HookCall} {result : Except SignalingError Unit}

/-- A move adds nothing to a wire, or what one connection has said to the wire of another
with which it is then paired. -/
theorem exists_said (move : Move before after call result) (id : ConnectionId) :
    ∃ said, (after.wire id).notices = (before.wire id).notices ++ said ∧
      (said = [] ∨ ∃ speaker listener, listener.id = id ∧
        (before.Paired speaker listener ∨ after.Paired speaker listener) ∧
        before.speakers call = said.map fun _ => speaker.id) := by
  have quiet (same : (after.wire id).notices = (before.wire id).notices) :
      ∃ said, (after.wire id).notices = (before.wire id).notices ++ said ∧
        (said = [] ∨ ∃ speaker listener, listener.id = id ∧
          (before.Paired speaker listener ∨ after.Paired speaker listener) ∧
          before.speakers call = said.map fun _ => speaker.id) :=
    ⟨[], by rw [same, List.append_nil], .inl rfl⟩
  cases move with
  | idle _ _ wire | entered _ _ wire | kept _ _ _ wire | left _ _ wire =>
      apply quiet
      rw [wire]
  | @answered asker text msgId asked _ wire =>
      apply quiet
      rw [wire, Function.update_apply]
      split
      · next same =>
        rw [same, Wire.notices_carrying]
        exact List.append_nil _
      · rfl
  | @parted leaver peer together _ wire =>
      apply quiet
      rw [wire, Function.update_apply]
      split
      · next same =>
        rw [same]
        rfl
      · rfl
  | @met newcomer host said waiting home differ sessions wire =>
      by_cases same : newcomer.id = id
      · subst same
        have together : after.Paired host newcomer := World.paired_of_update differ sessions
        have senders : before.speakers (.opened newcomer) = said.map fun _ => host.id := by
          rw [World.speakers, World.session_of_sessions waiting]
          simp [Session.lone, Function.comp_def]
        refine ⟨said, ?_, .inr ⟨host, newcomer, rfl, .inr together, senders⟩⟩
        rw [wire, Function.update_self, Wire.notices_carrying_notify]
      · apply quiet
        rw [wire, Function.update_of_ne (Ne.symm same)]
  | @passed speaker peer text data heard together _ wire =>
      by_cases same : peer.id = id
      · subst same
        refine ⟨[data], ?_, .inr ⟨speaker, peer, rfl, .inl together, rfl⟩⟩
        rw [wire, Function.update_self]
        exact Wire.notices_carrying_notify _ [data]
      · apply quiet
        rw [wire, Function.update_of_ne (Ne.symm same)]

end Move

namespace World

variable {world : World Relay} {call : HookCall}

/-- A call lets nothing be heard on a wire, or what one connection says to another with
which it is then paired. -/
theorem Moves.exists_heard (moves : world.Moves call) (id : ConnectionId) :
    ((world.after call).wire id).notices =
        (world.wire id).notices ++ (world.heard call id).map Heard.data ∧
      ∀ heard ∈ world.heard call id, ∃ speaker listener,
        speaker.id = heard.speaker ∧ listener.id = id ∧
          (world.Paired speaker listener ∨ (world.after call).Paired speaker listener) := by
  obtain ⟨said, longer, rfl | ⟨speaker, listener, here, together, senders⟩⟩ :=
    moves.exists_said id
  · have nothing : world.heard call id = [] := by
      rw [heard, added_of_append longer, List.zipWith_nil_right]
    rw [longer, nothing]
    exact ⟨rfl, nofun⟩
  · have all : world.heard call id = said.map (Heard.mk speaker.id) := by
      rw [heard, added_of_append longer, senders, List.zipWith_map_left, List.zipWith_self]
    rw [longer, all, List.map_map]
    refine ⟨by simp [Function.comp_def], fun heard listed => ?_⟩
    obtain ⟨data, -, rfl⟩ := List.mem_map.mp listed
    exact ⟨speaker, listener, rfl, here, together⟩

end World

/-! ## Along orderly histories -/

variable {configuration : PeerConfiguration} {history past : History}

/-- What is heard on a wire along a history on a relay that nobody has come to yet. -/
abbrev heardBy (configuration : PeerConfiguration) (history : History) (id : ConnectionId) :
    List Heard :=
  (Relay.initial configuration).heardAlong id history

/-- There is nothing on a wire but what is heard from somebody. -/
theorem Orderly.notices_eq (orderly : Orderly configuration history) (id : ConnectionId) :
    ((worldAfter configuration history).wire id).notices =
      (heardBy configuration history id).map Heard.data := by
  induction orderly with
  | nil => rfl
  | @snoc past call before promised ih =>
      rw [heardBy, World.heardAlong_snoc, List.map_append, worldAfter_snoc,
        ((before.settled.moves before promised).exists_heard id).1, ih]

/-- What is heard is heard from a partner. -/
theorem Orderly.partners_of_heard (orderly : Orderly configuration history)
    {id : ConnectionId} {heard : Heard} (listed : heard ∈ heardBy configuration history id) :
    ∃ speaker listener, speaker.id = heard.speaker ∧ listener.id = id ∧
      Partners configuration history speaker listener := by
  induction orderly with
  | nil => cases listed
  | @snoc past call before promised ih =>
      rw [heardBy, World.heardAlong_snoc, List.mem_append] at listed
      rcases listed with earlier | now
      · obtain ⟨speaker, listener, source, here, partners⟩ := ih earlier
        exact ⟨speaker, listener, source, here, Partners.snoc_iff.mpr (.inl partners)⟩
      · obtain ⟨speaker, listener, source, here, together | together⟩ :=
          ((before.settled.moves before promised).exists_heard id).2 heard now
        · have partners : Partners configuration past speaker listener :=
            ⟨past, List.prefix_rfl, together⟩
          exact ⟨speaker, listener, source, here, Partners.snoc_iff.mpr (.inl partners)⟩
        · rw [← worldAfter_snoc] at together
          exact ⟨speaker, listener, source, here, Partners.snoc_iff.mpr (.inr together)⟩

/-- Partners have different identifiers. -/
theorem Partners.ne_id (orderly : Orderly configuration history) {first second : Connection}
    (partners : Partners configuration history first second) : second.id ≠ first.id := by
  intro same
  have equal := orderly.eq_of_id (partners.symm.mem_connections orderly)
    (partners.mem_connections orderly) same
  obtain ⟨past, -, differ, -⟩ := partners
  exact differ equal.symm

/-- Nobody but one partner ever shares a session with a connection, hears what it says or
is heard by it. -/
structure Exclusive (configuration : PeerConfiguration) (history : History)
    (connection : Connection) : Prop where
  one_partner : ∀ first second, Partners configuration history connection first →
    Partners configuration history connection second → first = second
  /-- What the connection says comes to its partner's wire alone, never to its own. -/
  heard_by_partner : ∀ id, ∀ heard ∈ heardBy configuration history id,
    heard.speaker = connection.id → id ≠ connection.id ∧
      ∃ partner, partner.id = id ∧ Partners configuration history connection partner
  /-- What comes to the partner's wire was said by the connection. -/
  heard_from_connection : ∀ partner, Partners configuration history connection partner →
    ∀ heard ∈ heardBy configuration history partner.id, heard.speaker = connection.id
  /-- What is heard from the connection is what it said, in order, until the two parted. -/
  as_said : ∀ partner, Partners configuration history connection partner →
    (heardBy configuration history partner.id).map Heard.data =
      (history.untilParted connection partner).said connection
  /-- There are no notices on any wire but those that are heard from somebody. -/
  frames : ∀ id, ((worldAfter configuration history).wire id).noticeFrames =
    (heardBy configuration history id).map fun heard => noticeFrame heard.data

/-- Whatever a transport that keeps its promise does, connections are paired
exclusively. -/
theorem exclusive_of_orderly (orderly : Orderly configuration history)
    {connection : Connection} (known : connection ∈ history.connections) :
    Exclusive configuration history connection := by
  constructor
  case one_partner =>
    intro first second one two
    exact Partners.unique orderly one.symm two.symm
  case heard_by_partner =>
    intro id heard listed source
    obtain ⟨speaker, listener, same, rfl, partners⟩ := orderly.partners_of_heard listed
    obtain rfl := orderly.eq_of_id (partners.mem_connections orderly) known
      (same.trans source)
    exact ⟨partners.ne_id orderly, listener, rfl, partners⟩
  case heard_from_connection =>
    intro partner partners heard listed
    obtain ⟨speaker, listener, same, here, others⟩ := orderly.partners_of_heard listed
    obtain rfl := orderly.eq_of_id (others.symm.mem_connections orderly)
      (partners.symm.mem_connections orderly) here
    obtain rfl := Partners.unique orderly others partners
    exact same.symm
  case as_said =>
    intro partner partners
    rw [← orderly.notices_eq, orderly.relayed.heard connection partner partners]
  case frames =>
    intro id
    rw [Wire.noticeFrames_eq, orderly.notices_eq, List.map_map]
    rfl

/-- The first visitor of the room is heard by the second alone, before it came and
afterwards, and the third visitor hears nothing. -/
theorem exclusive_reunion : Orderly default reunion ∧
    visitor 0 "room" ∈ reunion.connections ∧
    Exclusive default reunion (visitor 0 "room") ∧
    heardBy default reunion (visitor 1 "room").id =
      [⟨(visitor 0 "room").id, .ofText "1"⟩, ⟨(visitor 0 "room").id, .ofText "2"⟩] ∧
    heardBy default reunion (visitor 0 "room").id = [] ∧
    heardBy default reunion (visitor 2 "room").id = [] := by
  have known : visitor 0 "room" ∈ reunion.connections := by decide
  refine ⟨orderly_reunion, known, exclusive_of_orderly orderly_reunion known, ?_, ?_, ?_⟩
  · decide
  · decide
  · decide

end Rendezvous
