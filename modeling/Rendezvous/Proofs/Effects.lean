/-
# What each hook does

Every hook is described once, case by case, by the result that it gives and by the
sessions and wires that it leaves. A call changes the session that it is made for
and the wire of one connection at most. Nothing that comes later looks inside the
hooks again.
-/

import Rendezvous.Proofs.History

namespace Rendezvous

open Function (update)

namespace Session

/-- The session after a connection has come in and taken what waited. -/
def welcoming (session : Session) (connection : Connection) : Session :=
  { session with members := session.members ++ [connection], pending := [] }

/-- The member that leaves together with a connection. A connection that is no
member takes nobody with it. -/
def partner? (session : Session) (id : ConnectionId) : Option Connection :=
  if session.contains id then session.otherMember id else none

/-- The session after a connection and its partner have left. -/
def without (session : Session) (id : ConnectionId) : Session :=
  (session.partner? id).elim (session.detach id) fun other =>
    (session.detach id).detach other.id

/-- What is stored of a session that somebody has just left. -/
def remains (session : Session) : Option Session :=
  if session.isEmpty then none else some session

theorem mem_of_partner? {session : Session} {id : ConnectionId} {other : Connection}
    (found : session.partner? id = some other) : other ∈ session.members := by
  unfold partner? at found
  split at found
  · exact mem_of_otherMember found
  · cases found

end Session

/-- The wire after messages were put on it; without a receiver they are lost. -/
def Wire.offered (wire : Wire) (messages : List Outgoing) : Wire :=
  if wire.attended then wire.carrying messages else wire

@[simp] theorem Wire.carrying_nil (wire : Wire) : wire.carrying [] = wire := by
  simp [Wire.carrying]

@[simp] theorem Wire.offered_nil (wire : Wire) : wire.offered [] = wire := by
  simp [Wire.offered]

theorem Wire.offered_of_attended {wire : Wire} (attended : wire.attended = true)
    (messages : List Outgoing) : wire.offered messages = wire.carrying messages := by
  simp [Wire.offered, attended]

theorem Wire.closing_offered (wire : Wire) (messages : List Outgoing) :
    (wire.offered messages).closing = true ↔ wire.closing = true := by
  unfold Wire.offered
  split <;> rfl

/-- What comes of a hook, as far as it can be seen: the result, the sessions and the
wires. -/
structure Outcome.Shows (outcome : Outcome Relay) (result : Except SignalingError Unit)
    (sessions : SessionId → Option Session) (wire : ConnectionId → Wire) : Prop where
  result : outcome.result = result
  sessions : outcome.world.sessions = sessions
  wire : outcome.world.wire = wire

namespace World

theorem get?_set_eq_update (world : World Relay) (id : SessionId) (session : Session) :
    (world.core.registry.set id session).get? = update world.sessions id (some session) := by
  funext other
  rw [Directory.get?_set, Function.update_apply]
  rfl

theorem wire_set_eq_update (world : World Relay) (id : ConnectionId) (changed : Wire) :
    Switchboard.wire (world.wires.set id changed) = update world.wire id changed := by
  funext other
  rw [Switchboard.wire_set, Function.update_apply]
  rfl

/-- Sending is offering: what cannot be received leaves the wires alone. -/
theorem wire_send?_getD (world : World Relay) (id : ConnectionId) (messages : List Outgoing) :
    Switchboard.wire ((world.wires.send? id messages).getD world.wires) =
      update world.wire id ((world.wire id).offered messages) := by
  unfold Switchboard.send? Wire.offered
  split
  · next attended =>
    rw [Option.getD_some, wire_set_eq_update, if_pos (show (world.wire id).attended = true
      from attended)]
    rfl
  · next unattended =>
    rw [Option.getD_none, if_neg (show ¬ (world.wire id).attended = true from unattended),
      Function.update_eq_self]
    rfl

/-- Taking an idle session out of the registry leaves what remains of it. -/
theorem get?_removeIfEmpty_set (world : World Relay) (id : SessionId) (session : Session) :
    Directory.get? (Registry.removeIfEmpty (world.core.registry.set id session) id).2 =
      update world.sessions id session.remains := by
  funext other
  rw [Registry.get?_removeIfEmpty, Registry.removeIfEmpty_fst, Registry.isIdle,
    Directory.get?_set_self, Directory.get?_set, Function.update_apply]
  by_cases same : other = id
  · simp [same, Session.remains]
  · simp [same, sessions]

/-- What is found on entering a session changes with what is stored of it. -/
theorem session_of_update {before after : World Relay} {id : SessionId} {stored : Option Session}
    (changed : after.sessions = update before.sessions id stored) :
    after.session = update before.session id (stored.getD (.new id)) := by
  funext other
  rw [World.session, changed, Function.update_apply, Function.update_apply]
  split
  · next same => rw [same]
  · rfl

end World

namespace Relay

open World

variable {world : World Relay} (connection : Connection) {text : Octets}

/-! ## Handshake and opening -/

@[simp] theorem world_handshake (id : SessionId) (world : World Relay) :
    (handshake id world).world = world := by
  unfold handshake
  split
  · rfl
  · split <;> rfl

/-- A handshake changes nothing, whatever comes of it. -/
theorem handshake_shows (id : SessionId) (world : World Relay) :
    (hooks.answer (.handshake id) world).Shows (handshake id world).result world.sessions
      world.wire :=
  ⟨rfl, congrArg World.sessions (world_handshake id world),
    congrArg World.wire (world_handshake id world)⟩

theorem result_handshake (sound : world.core.poisoned = false) (id : SessionId) :
    (handshake id world).result =
      if (world.session id).isFull then .error (.spaceFull id) else .ok () := by
  have known : Registry.isFull world.core.registry id = (world.session id).isFull := by
    unfold Registry.isFull World.session World.sessions
    cases world.core.registry.get? id with
    | none => rfl
    | some session => rfl
  rw [handshake, sound, known]
  split
  · contradiction
  · split <;> rfl

/-- A full session takes nobody in. -/
theorem opened_of_isFull (sound : world.core.poisoned = false)
    (full : (world.session connection.session).isFull = true) :
    (hooks.answer (.opened connection) world).Shows
      (.error (.spaceFull (world.session connection.session).id)) world.sessions world.wire := by
  have refused : Session.attach (Registry.session world.core.registry connection.session)
      connection = .error (.spaceFull (world.session connection.session).id) :=
    Session.attach_of_isFull full connection
  show (opened connection world).Shows _ _ _
  unfold opened
  simp only [sound, Bool.false_eq_true, if_false, refused]
  exact ⟨rfl, rfl, rfl⟩

/-- Handing over what waited is offering it on the wire of the newcomer. -/
theorem wire_flush (world : World Relay) (connection : Connection) (waiting : List Payload) :
    Switchboard.wire (flush connection waiting world.wires).1 =
      update world.wire connection.id
        ((world.wire connection.id).offered (waiting.map Outgoing.notify)) := by
  cases waiting with
  | nil =>
      rw [List.map_nil, Wire.offered_nil, Function.update_eq_self]
      rfl
  | cons first rest =>
      rw [← wire_send?_getD]
      unfold flush
      simp only [List.isEmpty_cons, Bool.false_eq_true, if_false]
      split
      · next sent found => rw [found, Option.getD_some]
      · next found => rw [found, Option.getD_none]

/-- A newcomer becomes the last member and is offered all that waited. -/
theorem opened_of_room (sound : world.core.poisoned = false)
    (room : (world.session connection.session).isFull = false) :
    (hooks.answer (.opened connection) world).Shows (.ok ())
      (update world.sessions connection.session
        (some ((world.session connection.session).welcoming connection)))
      (update world.wire connection.id ((world.wire connection.id).offered
        ((world.session connection.session).waiting.map Outgoing.notify))) := by
  have taken : Session.attach (Registry.session world.core.registry connection.session)
      connection = .ok _ := Session.attach_of_not_isFull room connection
  show (opened connection world).Shows _ _ _
  unfold opened
  simp only [sound, Bool.false_eq_true, if_false, taken]
  refine ⟨rfl, ?_, ?_⟩
  · exact get?_set_eq_update world connection.session _
  · exact wire_flush world connection _

/-! ## Texts -/

/-- A text that is no object fails and changes nothing. -/
theorem message_of_fault {fault : Json.Fault} (parsed : Request.parse text = .error fault) :
    (hooks.answer (.message connection text) world).Shows
      (.error (.protocol fault.cause (.of text fault.position))) world.sessions world.wire := by
  show (message connection text world).Shows _ _ _
  unfold message
  simp only [parsed]
  exact ⟨rfl, rfl, rfl⟩

/-- The configuration goes to the one who asks, if somebody still receives it. -/
theorem message_of_getConfiguration {msgId : Option Payload}
    (parsed : Request.parse text = .ok (.getConfiguration msgId)) :
    (hooks.answer (.message connection text) world).Shows
      (if (world.wire connection.id).attended then .ok () else .error (.peerGone connection.id))
      world.sessions
      (update world.wire connection.id
        ((world.wire connection.id).offered
          [.configuration world.core.configuration msgId])) := by
  rw [← wire_send?_getD]
  show (message connection text world).Shows _ _ _
  unfold message
  simp only [parsed, serve]
  split
  · next sent found =>
    have attended : (world.wire connection.id).attended = true := by
      by_contra unattended
      rw [Switchboard.send?_eq_none_iff.mpr (Bool.eq_false_iff.mpr unattended)] at found
      cases found
    rw [if_pos attended, found]
    exact ⟨rfl, rfl, rfl⟩
  · next found =>
    have unattended : (world.wire connection.id).attended = false :=
      Switchboard.send?_eq_none_iff.mp found
    rw [if_neg (Bool.eq_false_iff.mp unattended), found]
    exact ⟨rfl, rfl, rfl⟩

/-- What is not recognised has no effect. -/
theorem message_of_unrecognized {reason : Unrecognized}
    (parsed : Request.parse text = .ok (.unrecognized reason)) :
    (hooks.answer (.message connection text) world).Shows (.ok ()) world.sessions world.wire := by
  show (message connection text world).Shows _ _ _
  unfold message
  simp only [parsed]
  exact ⟨rfl, rfl, rfl⟩

/-- What a connection says while it is hung up is dropped. -/
theorem message_of_closing {data : Payload} (parsed : Request.parse text = .ok (.notify data))
    (closing : (world.wire connection.id).closing = true) :
    (hooks.answer (.message connection text) world).Shows (.ok ()) world.sessions world.wire := by
  have marked : world.wires.isClosing connection.id = true := closing
  show (message connection text world).Shows _ _ _
  unfold message
  simp only [parsed, serve, pass, marked, if_true]
  exact ⟨rfl, rfl, rfl⟩

/-- A payload is offered to the other member. -/
theorem message_of_otherMember {data : Payload} {peer : Connection}
    (sound : world.core.poisoned = false) (parsed : Request.parse text = .ok (.notify data))
    (closing : (world.wire connection.id).closing = false)
    (found : (world.session connection.session).otherMember connection.id = some peer) :
    (hooks.answer (.message connection text) world).Shows (.ok ()) world.sessions
      (update world.wire peer.id ((world.wire peer.id).offered [.notify data])) := by
  have unmarked : world.wires.isClosing connection.id = false := closing
  have other : (Registry.session world.core.registry connection.session).otherMember
      connection.id = some peer := found
  rw [← wire_send?_getD]
  show (message connection text world).Shows _ _ _
  unfold message
  simp only [parsed, serve, pass, unmarked, sound, Bool.false_eq_true, if_false, other]
  split
  · next sent received =>
    rw [received]
    exact ⟨rfl, rfl, rfl⟩
  · next lost =>
    rw [lost]
    exact ⟨rfl, rfl, rfl⟩

/-- A payload for which there is no other member waits in the session. -/
theorem message_of_no_otherMember {data : Payload} (sound : world.core.poisoned = false)
    (parsed : Request.parse text = .ok (.notify data))
    (closing : (world.wire connection.id).closing = false)
    (missing : (world.session connection.session).otherMember connection.id = none) :
    (hooks.answer (.message connection text) world).Shows (.ok ())
      (update world.sessions connection.session
        (some ((world.session connection.session).enqueue connection.id data)))
      world.wire := by
  have unmarked : world.wires.isClosing connection.id = false := closing
  have nobody : (Registry.session world.core.registry connection.session).otherMember
      connection.id = none := missing
  show (message connection text world).Shows _ _ _
  unfold message
  simp only [parsed, serve, pass, unmarked, sound, Bool.false_eq_true, if_false, nobody]
  exact ⟨rfl, get?_set_eq_update world connection.session _, rfl⟩

/-! ## Closing -/

/-- Where there is no session, a close has no effect. -/
theorem closed_of_absent (sound : world.core.poisoned = false)
    (absent : world.sessions connection.session = none) :
    (hooks.answer (.closed connection) world).Shows (.ok ()) world.sessions world.wire := by
  have missing : world.core.registry.get? connection.session = none := absent
  show (closed connection world).Shows _ _ _
  unfold closed
  simp only [sound, Bool.false_eq_true, if_false, missing]
  exact ⟨rfl, rfl, rfl⟩

/-- A close takes the connection and its partner out, marks the partner, and keeps
the session only if somebody is left in it. -/
theorem closed_of_present {session : Session} (sound : world.core.poisoned = false)
    (present : world.sessions connection.session = some session) :
    (hooks.answer (.closed connection) world).Shows (.ok ())
      (update world.sessions connection.session (session.without connection.id).remains)
      ((session.partner? connection.id).elim world.wire fun peer =>
        update world.wire peer.id (world.wire peer.id).marked) := by
  have found : world.core.registry.get? connection.session = some session := present
  show (closed connection world).Shows _ _ _
  unfold closed
  simp only [sound, Bool.false_eq_true, if_false, found]
  refine ⟨rfl, ?_, ?_⟩
  · exact get?_removeIfEmpty_set world connection.session (session.without connection.id)
  · show Switchboard.wire ((session.partner? connection.id).elim world.wires _) = _
    cases session.partner? connection.id with
    | none => rfl
    | some peer => exact wire_set_eq_update world peer.id _

/-! ## What no call changes -/

/-- A call changes nothing of the relay but its registry. -/
theorem core_answer (call : HookCall) (world : World Relay) :
    ∃ registry, (hooks.answer call world).world.core = { world.core with registry } := by
  cases call with
  | handshake id => exact ⟨world.core.registry, congrArg World.core (world_handshake id world)⟩
  | opened connection =>
      show ∃ registry, (opened connection world).world.core = _
      unfold opened
      split
      · exact ⟨world.core.registry, rfl⟩
      · dsimp only
        split
        · exact ⟨world.core.registry, rfl⟩
        · exact ⟨_, rfl⟩
  | message connection text =>
      show ∃ registry, (message connection text world).world.core = _
      unfold message
      dsimp only
      split
      · exact ⟨world.core.registry, rfl⟩
      · next request parsed =>
        cases request with
        | getConfiguration msgId =>
            simp only [serve]
            split <;> exact ⟨world.core.registry, rfl⟩
        | notify data =>
            simp only [serve, pass]
            repeat' split
            all_goals exact ⟨_, rfl⟩
        | unrecognized reason => exact ⟨world.core.registry, rfl⟩
  | closed connection =>
      show ∃ registry, (closed connection world).world.core = _
      unfold closed
      split
      · exact ⟨world.core.registry, rfl⟩
      · dsimp only
        split <;> exact ⟨_, rfl⟩

/-- A call that fails changes nothing at all. -/
theorem world_of_error {call : HookCall} {world : World Relay} {error : SignalingError} :
    (hooks.answer call world).result = .error error →
      (hooks.answer call world).world = world := by
  cases call with
  | handshake id => exact fun _ => world_handshake id world
  | opened connection =>
      show (opened connection world).result = _ → (opened connection world).world = _
      unfold opened
      split
      · exact fun _ => rfl
      · dsimp only
        split
        · exact fun _ => rfl
        · intro failed
          cases failed
  | message connection text =>
      show (message connection text world).result = _ → (message connection text world).world = _
      unfold message
      dsimp only
      split
      · exact fun _ => rfl
      · next request parsed =>
        cases request with
        | getConfiguration msgId =>
            simp only [serve]
            split
            · intro failed
              cases failed
            · exact fun _ => rfl
        | notify data =>
            simp only [serve, pass]
            repeat' split
            all_goals first
              | exact fun _ => rfl
              | intro failed
                cases failed
        | unrecognized reason =>
            intro failed
            cases failed
  | closed connection =>
      show (closed connection world).result = _ → (closed connection world).world = _
      unfold closed
      split
      · exact fun _ => rfl
      · dsimp only
        split <;>
          · intro failed
            cases failed

end Relay

namespace World

variable (world : World Relay)

@[simp] theorem configuration_after (call : HookCall) :
    (world.after call).core.configuration = world.core.configuration := by
  obtain ⟨registry, same⟩ := Relay.core_answer call world
  rw [after, same]

@[simp] theorem poisoned_after (call : HookCall) :
    (world.after call).core.poisoned = world.core.poisoned := by
  obtain ⟨registry, same⟩ := Relay.core_answer call world
  rw [after, same]

end World

end Rendezvous
