/-
# What a call looks at and what it leaves

A call looks at the session that it is made for and, of its own connection, at whether it
is being hung up and whether anybody is still there. From this alone `HookCall.effect` says
what comes of the call: the result, what is stored of the session, what is offered to whom
and who is hung up. Worlds that agree on all this are twins: a call comes to the same in
both of them, whatever is on their wires.

Nothing is assumed here about the order of calls.
-/

import Rendezvous.Proofs.Effects

namespace Rendezvous

open Function (update)

theorem Wire.outbox_offered (wire : Wire) (messages : List Outgoing) :
    (wire.offered messages).outbox = wire.outbox ++ if wire.attended then messages else [] := by
  unfold Wire.offered
  split
  · rfl
  · exact (List.append_nil _).symm

/-- What comes of a call. -/
structure Effect where
  result : Except SignalingError Unit
  /-- What is stored of the session that the call is made for. -/
  stored : Option Session
  /-- Messages that are offered to a connection. -/
  offer? : Option (ConnectionId × List Outgoing)
  /-- The connection that is hung up. -/
  hungUp? : Option ConnectionId

namespace Effect

/-- Nothing comes of a call but its result. -/
def idle (result : Except SignalingError Unit) (present : Option Session) : Effect :=
  ⟨result, present, none, none⟩

/-- What is offered to a connection. -/
def mail (effect : Effect) (id : ConnectionId) : List Outgoing :=
  effect.offer?.elim [] fun offer => if offer.1 = id then offer.2 else []

/-- The wires after a call, by what they were before. -/
def wire (effect : Effect) (wire : ConnectionId → Wire) (id : ConnectionId) : Wire :=
  if effect.hungUp? = some id then ((wire id).offered (effect.mail id)).marked
  else (wire id).offered (effect.mail id)

variable {result : Except SignalingError Unit} {stored : Option Session}
  (wire : ConnectionId → Wire)

@[simp] theorem wire_idle : (idle result stored).wire wire = wire := by
  funext id
  simp [Effect.wire, idle, mail]

@[simp] theorem wire_offer (target : ConnectionId) (messages : List Outgoing) :
    (Effect.mk result stored (some (target, messages)) none).wire wire =
      update wire target ((wire target).offered messages) := by
  funext id
  by_cases same : target = id
  · subst same
    simp [Effect.wire, mail]
  · simp [Effect.wire, mail, same, Function.update_of_ne (Ne.symm same)]

theorem wire_hangUp (target : Option ConnectionId) :
    (Effect.mk result stored none target).wire wire =
      target.elim wire fun id => update wire id (wire id).marked := by
  cases target with
  | none => exact wire_idle wire
  | some target =>
      funext id
      by_cases same : target = id
      · subst same
        simp [Effect.wire, mail]
      · simp [Effect.wire, mail, same, Function.update_of_ne (Ne.symm same)]

end Effect

namespace HookCall

/-- What comes of a call, by the session that it is made for, if that exists, and by whether
its connection is being hung up and somebody is at its wire. -/
def effect (configuration : PeerConfiguration) (present : Option Session)
    (closing attended : Bool) : HookCall → Effect
  | .handshake id =>
    .idle (if (present.getD (.new id)).isFull then .error (.spaceFull id) else .ok ()) present
  | .opened connection =>
    let session := present.getD (.new connection.session)
    if session.isFull then .idle (.error (.spaceFull session.id)) present
    else
      ⟨.ok (), some (session.welcoming connection),
        some (connection.id, session.waiting.map .notify), none⟩
  | .message connection text =>
    match Request.parse text with
    | .error fault => .idle (.error (.protocol fault.cause (.of text fault.position))) present
    | .ok (.getConfiguration msgId) =>
      ⟨if attended then .ok () else .error (.peerGone connection.id), present,
        some (connection.id, [.configuration configuration msgId]), none⟩
    | .ok (.unrecognized _) => .idle (.ok ()) present
    | .ok (.notify data) =>
      if closing then .idle (.ok ()) present
      else
        let session := present.getD (.new connection.session)
        match session.otherMember connection.id with
        | some peer => ⟨.ok (), present, some (peer.id, [.notify data]), none⟩
        | none => .idle (.ok ()) (some (session.enqueue connection.id data))
  | .closed connection =>
    ⟨.ok (), present.bind fun session => (session.without connection.id).remains, none,
      present.bind fun session => (session.partner? connection.id).map Connection.id⟩

/-- Whether somebody is at the wire decides about nothing but the result, -/
theorem effect_eq_but_result (configuration : PeerConfiguration) (present : Option Session)
    (closing attended attended' : Bool) (call : HookCall) :
    call.effect configuration present closing attended =
      { call.effect configuration present closing attended' with
        result := (call.effect configuration present closing attended).result } := by
  cases call with
  | handshake id | opened connection | closed connection => rfl
  | message connection text =>
      simp only [effect]
      cases Request.parse text with
      | error fault => rfl
      | ok request => cases request <;> rfl

/-- and about that only where the configuration is asked for. -/
theorem result_effect_eq {call : HookCall}
    (asksNot : ∀ connection text msgId, call = .message connection text →
      Request.parse text ≠ .ok (.getConfiguration msgId))
    (configuration : PeerConfiguration) (present : Option Session)
    (closing attended attended' : Bool) :
    (call.effect configuration present closing attended).result =
      (call.effect configuration present closing attended').result := by
  cases call with
  | handshake id | opened connection | closed connection => rfl
  | message connection text =>
      simp only [effect]
      cases parsed : Request.parse text with
      | error fault => rfl
      | ok request =>
          cases request with
          | getConfiguration msgId => exact absurd parsed (asksNot connection text msgId rfl)
          | notify data | unrecognized reason => rfl

end HookCall

/-- What a call shows where it leaves the sessions alone. -/
theorem Outcome.Shows.update_self {world : World Relay} {outcome : Outcome Relay}
    {result : Except SignalingError Unit} {wire : ConnectionId → Wire} (id : SessionId)
    (shown : outcome.Shows result world.sessions wire) :
    outcome.Shows result (update world.sessions id (world.sessions id)) wire := by
  rwa [Function.update_eq_self]

namespace World

variable {world : World Relay}

/-- What comes of a call in a world. -/
def effect (world : World Relay) (call : HookCall) : Effect :=
  call.effect world.core.configuration (world.sessions call.session)
    (call.connection?.any fun connection => (world.wire connection.id).closing)
    (call.connection?.any fun connection => (world.wire connection.id).attended)

section

variable (connection : Connection) {text : Octets}

theorem effect_opened : world.effect (.opened connection) =
    if (world.session connection.session).isFull then
      .idle (.error (.spaceFull (world.session connection.session).id))
        (world.sessions connection.session)
    else
      ⟨.ok (), some ((world.session connection.session).welcoming connection),
        some (connection.id, (world.session connection.session).waiting.map .notify), none⟩ :=
  rfl

theorem effect_of_fault {fault : Json.Fault} (parsed : Request.parse text = .error fault) :
    world.effect (.message connection text) =
      .idle (.error (.protocol fault.cause (.of text fault.position)))
        (world.sessions connection.session) := by
  simp only [effect, HookCall.effect, parsed]
  rfl

theorem effect_of_getConfiguration {msgId : Option Payload}
    (parsed : Request.parse text = .ok (.getConfiguration msgId)) :
    world.effect (.message connection text) =
      ⟨if (world.wire connection.id).attended then .ok () else .error (.peerGone connection.id),
        world.sessions connection.session,
        some (connection.id, [.configuration world.core.configuration msgId]), none⟩ := by
  simp only [effect, HookCall.effect, parsed]
  rfl

theorem effect_of_unrecognized {reason : Unrecognized}
    (parsed : Request.parse text = .ok (.unrecognized reason)) :
    world.effect (.message connection text) =
      .idle (.ok ()) (world.sessions connection.session) := by
  simp only [effect, HookCall.effect, parsed]
  rfl

theorem effect_of_notify {data : Payload} (parsed : Request.parse text = .ok (.notify data)) :
    world.effect (.message connection text) =
      if (world.wire connection.id).closing then
        .idle (.ok ()) (world.sessions connection.session)
      else
        match (world.session connection.session).otherMember connection.id with
        | some peer =>
          ⟨.ok (), world.sessions connection.session, some (peer.id, [.notify data]), none⟩
        | none =>
          .idle (.ok ())
            (some ((world.session connection.session).enqueue connection.id data)) := by
  simp only [effect, HookCall.effect, parsed]
  rfl

theorem effect_closed : world.effect (.closed connection) =
    ⟨.ok (),
      (world.sessions connection.session).bind fun session =>
        (session.without connection.id).remains,
      none,
      (world.sessions connection.session).bind fun session =>
        (session.partner? connection.id).map Connection.id⟩ :=
  rfl

end

/-- All that can come of a call. -/
inductive Comes (world : World Relay) : HookCall → Effect → Prop
  | idle {call : HookCall} {result : Except SignalingError Unit} :
    Comes world call (.idle result (world.sessions call.session))
  /-- The session has room for one more, who is told what waits there. -/
  | welcomed {connection : Connection}
    (room : (world.session connection.session).isFull = false) :
    Comes world (.opened connection)
      ⟨.ok (), some ((world.session connection.session).welcoming connection),
        some (connection.id, (world.session connection.session).waiting.map .notify), none⟩
  /-- A request for the configuration is answered. -/
  | answered {connection : Connection} {text : Octets} {msgId : Option Payload}
    {result : Except SignalingError Unit}
    (parsed : Request.parse text = .ok (.getConfiguration msgId)) :
    Comes world (.message connection text) ⟨result, world.sessions connection.session,
      some (connection.id, [.configuration world.core.configuration msgId]), none⟩
  /-- A notice is passed on to the other member, -/
  | passed {connection peer : Connection} {text : Octets} {data : Payload}
    (parsed : Request.parse text = .ok (.notify data))
    (found : (world.session connection.session).otherMember connection.id = some peer) :
    Comes world (.message connection text)
      ⟨.ok (), world.sessions connection.session, some (peer.id, [.notify data]), none⟩
  /-- or kept where there is none. -/
  | kept {connection : Connection} {text : Octets} {data : Payload}
    (parsed : Request.parse text = .ok (.notify data)) :
    Comes world (.message connection text)
      (.idle (.ok ()) (some ((world.session connection.session).enqueue connection.id data)))
  | closed {connection : Connection} :
    Comes world (.closed connection)
      ⟨.ok (),
        (world.sessions connection.session).bind fun session =>
          (session.without connection.id).remains,
        none,
        (world.sessions connection.session).bind fun session =>
          (session.partner? connection.id).map Connection.id⟩

theorem comes_effect (world : World Relay) (call : HookCall) :
    world.Comes call (world.effect call) := by
  cases call with
  | handshake id => exact .idle
  | opened connection =>
      rw [effect_opened]
      split
      · exact .idle
      · next room => exact .welcomed (Bool.eq_false_iff.mpr room)
  | message connection text =>
      cases parsed : Request.parse text with
      | error fault =>
          rw [effect_of_fault connection parsed]
          exact .idle
      | ok request =>
          cases request with
          | getConfiguration msgId =>
              rw [effect_of_getConfiguration connection parsed]
              exact .answered parsed
          | unrecognized reason =>
              rw [effect_of_unrecognized connection parsed]
              exact .idle
          | notify data =>
              rw [effect_of_notify connection parsed]
              split
              · exact .idle
              · split
                · next peer found => exact .passed parsed found
                · exact .kept parsed
  | closed connection => exact .closed

/-- A call shows its effect. -/
theorem shows_effect (sound : world.core.poisoned = false) (call : HookCall) :
    (Relay.hooks.answer call world).Shows (world.effect call).result
      (update world.sessions call.session (world.effect call).stored)
      ((world.effect call).wire world.wire) := by
  cases call with
  | handshake id =>
      have shown := (Relay.handshake_shows id world).update_self id
      rw [Relay.result_handshake sound] at shown
      rw [show (world.effect (.handshake id)) = .idle _ _ from rfl, Effect.wire_idle]
      exact shown
  | opened connection =>
      rw [effect_opened]
      split
      · next full =>
        rw [Effect.wire_idle]
        exact (Relay.opened_of_isFull connection sound full).update_self _
      · next room =>
        rw [Effect.wire_offer]
        exact Relay.opened_of_room connection sound (Bool.eq_false_iff.mpr room)
  | message connection text =>
      cases parsed : Request.parse text with
      | error fault =>
          rw [effect_of_fault connection parsed, Effect.wire_idle]
          exact (Relay.message_of_fault connection parsed).update_self _
      | ok request =>
          cases request with
          | getConfiguration msgId =>
              rw [effect_of_getConfiguration connection parsed, Effect.wire_offer]
              exact (Relay.message_of_getConfiguration connection parsed).update_self _
          | unrecognized reason =>
              rw [effect_of_unrecognized connection parsed, Effect.wire_idle]
              exact (Relay.message_of_unrecognized connection parsed).update_self _
          | notify data =>
              rw [effect_of_notify connection parsed]
              split
              · next closing =>
                rw [Effect.wire_idle]
                exact (Relay.message_of_closing connection parsed closing).update_self _
              · next open_ =>
                have unmarked := Bool.eq_false_iff.mpr open_
                split
                · next peer found =>
                  rw [Effect.wire_offer]
                  exact (Relay.message_of_otherMember connection sound parsed unmarked
                    found).update_self _
                · next nobody =>
                  rw [Effect.wire_idle]
                  exact Relay.message_of_no_otherMember connection sound parsed unmarked nobody
  | closed connection =>
      rw [effect_closed, Effect.wire_hangUp]
      cases present : world.sessions connection.session with
      | none =>
          have shown := (Relay.closed_of_absent connection sound present).update_self
            connection.session
          rwa [present] at shown
      | some session =>
          have shown := Relay.closed_of_present connection sound present
          dsimp only [Option.bind_some]
          cases partner : session.partner? connection.id with
          | none =>
              rw [partner] at shown
              exact shown
          | some peer =>
              rw [partner] at shown
              exact shown

/-! ## After a call -/

section

variable (sound : world.core.poisoned = false) (call : HookCall)

include sound

theorem result_eq_effect : world.result call = (world.effect call).result :=
  (shows_effect sound call).result

theorem sessions_after : (world.after call).sessions =
    update world.sessions call.session (world.effect call).stored :=
  (shows_effect sound call).sessions

theorem wire_after (id : ConnectionId) :
    (world.after call).wire id = (world.effect call).wire world.wire id :=
  congrFun (shows_effect sound call).wire id

/-- No call brings anybody to a wire or takes anybody away from it. -/
theorem attended_after (id : ConnectionId) :
    ((world.after call).wire id).attended = (world.wire id).attended := by
  rw [wire_after sound, Effect.wire, Wire.offered]
  split <;> split <;> rfl

theorem closing_eq_after (id : ConnectionId) : ((world.after call).wire id).closing =
    ((world.effect call).hungUp? = some id || (world.wire id).closing) := by
  rw [wire_after sound, Effect.wire]
  split
  · next hung =>
    rw [decide_eq_true hung]
    rfl
  · next other =>
    rw [decide_eq_false other, Wire.offered]
    split <;> rfl

/-- Messages come to the end of a wire, if somebody is there to receive them. -/
theorem outbox_after (id : ConnectionId) : ((world.after call).wire id).outbox =
    (world.wire id).outbox ++
      if (world.wire id).attended then (world.effect call).mail id else [] := by
  rw [wire_after sound, Effect.wire, ← Wire.outbox_offered]
  split <;> rfl

end

end World

/-! ## Twins -/

/-- Two worlds that a call cannot tell apart if its connection is one of those given. What is
on the wires may differ. -/
structure World.Twins (among : ConnectionId → Prop) (one other : World Relay) : Prop where
  configuration : one.core.configuration = other.core.configuration
  sound : one.core.poisoned = false
  sound' : other.core.poisoned = false
  sessions : one.sessions = other.sessions
  closing : ∀ id, (one.wire id).closing = (other.wire id).closing
  attended : ∀ id, among id → (one.wire id).attended = (other.wire id).attended

namespace World.Twins

variable {among : ConnectionId → Prop} {one other : World Relay} {call : HookCall}

theorem effect_eq (twins : Twins among one other)
    (here : ∀ connection, call.connection? = some connection → among connection.id) :
    one.effect call = other.effect call := by
  unfold World.effect
  rw [twins.configuration, twins.sessions]
  cases about : call.connection? with
  | none => rfl
  | some connection =>
      simp only [Option.any_some, twins.closing, twins.attended connection.id (here _ about)]

theorem any_closing_eq (twins : Twins among one other) (call : HookCall) :
    (call.connection?.any fun connection => (one.wire connection.id).closing) =
      call.connection?.any fun connection => (other.wire connection.id).closing := by
  simp only [twins.closing]

/-- Whoever makes the call, nothing but its result may differ, -/
theorem effect_eq_but_result (twins : Twins among one other) (call : HookCall) :
    one.effect call = { other.effect call with result := (one.effect call).result } := by
  unfold World.effect
  rw [twins.configuration, twins.sessions, twins.any_closing_eq]
  exact call.effect_eq_but_result ..

/-- and that only where the configuration is asked for. -/
theorem result_eq_of_asks_not (twins : Twins among one other)
    (asksNot : ∀ connection text msgId, call = .message connection text →
      Request.parse text ≠ .ok (.getConfiguration msgId)) :
    one.result call = other.result call := by
  rw [result_eq_effect twins.sound, result_eq_effect twins.sound']
  unfold World.effect
  rw [twins.configuration, twins.sessions, twins.any_closing_eq]
  exact HookCall.result_effect_eq asksNot ..

theorem result_eq (twins : Twins among one other)
    (here : ∀ connection, call.connection? = some connection → among connection.id) :
    one.result call = other.result call := by
  rw [result_eq_effect twins.sound, result_eq_effect twins.sound', twins.effect_eq here]

/-- Twins stay twins when the same is done in both. -/
theorem after (twins : Twins among one other) (call : HookCall) :
    Twins among (one.after call) (other.after call) := by
  have same := twins.effect_eq_but_result call
  constructor
  case configuration => rw [configuration_after, configuration_after, twins.configuration]
  case sound => rw [poisoned_after, twins.sound]
  case sound' => rw [poisoned_after, twins.sound']
  case sessions =>
    rw [sessions_after twins.sound, sessions_after twins.sound', same, twins.sessions]
  case closing =>
    intro id
    rw [closing_eq_after twins.sound, closing_eq_after twins.sound', same, twins.closing]
  case attended =>
    intro id inside
    rw [attended_after twins.sound, attended_after twins.sound', twins.attended id inside]

/-- What a call puts on a wire in one of the two it puts there in the other. -/
theorem mail_eq (twins : Twins among one other) (call : HookCall) (id : ConnectionId) :
    (one.effect call).mail id = (other.effect call).mail id := by
  rw [twins.effect_eq_but_result]
  rfl

/-- A wire that is the same in both stays the same. -/
theorem wire_after (twins : Twins among one other) {id : ConnectionId}
    (same : one.wire id = other.wire id) (call : HookCall) :
    (one.after call).wire id = (other.after call).wire id := by
  rw [World.wire_after twins.sound, World.wire_after twins.sound', Effect.wire, Effect.wire, same,
    twins.mail_eq, twins.effect_eq_but_result]

theorem mono {fewer : ConnectionId → Prop} (twins : Twins among one other)
    (inside : ∀ id, fewer id → among id) : Twins fewer one other :=
  { twins with attended := fun id here => twins.attended id (inside id here) }

/-- What is on the wires of one of the two may change. -/
theorem of_left {changed : World Relay} (twins : Twins among one other)
    (core : changed.core = one.core)
    (closing : ∀ id, (changed.wire id).closing = (one.wire id).closing)
    (attended : ∀ id, among id → (changed.wire id).attended = (one.wire id).attended) :
    Twins among changed other where
  configuration := by rw [core, twins.configuration]
  sound := by rw [core, twins.sound]
  sound' := twins.sound'
  sessions := by
    rw [← twins.sessions]
    exact congrArg (fun core : Relay => core.registry.get?) core
  closing id := (closing id).trans (twins.closing id)
  attended id inside := (attended id inside).trans (twins.attended id inside)

/-- A call that stores what was there and hangs nobody up may be made in one of the two
alone. -/
theorem after_left (twins : Twins among one other)
    (stored : (one.effect call).stored = one.sessions call.session)
    (hungUp : (one.effect call).hungUp? = none) : Twins among (one.after call) other := by
  constructor
  case configuration => rw [configuration_after, twins.configuration]
  case sound => rw [poisoned_after, twins.sound]
  case sound' => exact twins.sound'
  case sessions => rw [sessions_after twins.sound, stored, Function.update_eq_self, twins.sessions]
  case closing =>
    intro id
    rw [closing_eq_after twins.sound, hungUp, twins.closing]
    rfl
  case attended =>
    intro id inside
    rw [attended_after twins.sound, twins.attended id inside]

end World.Twins

end Rendezvous
