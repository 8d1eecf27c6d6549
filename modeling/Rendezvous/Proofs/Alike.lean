/-
# Worlds that look alike

Two worlds look alike to a group of connections if the sessions that concern the
group and the wires of the group are the same in both. A call that stays within the
group has the same result in both worlds and leaves worlds that look alike again. A
call that stays outside is not noticed. From these two facts about one call, what is
kept of two histories is followed through both of them at once.

Nothing is assumed here about the order of calls.
-/

import Rendezvous.Proofs.Effects

namespace Rendezvous

open Function (update)

/-! ## What one call reaches -/

namespace HookCall

/-- The wires that a call could change are those of its connection and of the members
of its session. -/
def Reaches (call : HookCall) (world : World Relay) (id : ConnectionId) : Prop :=
  (∃ connection, call.connection? = some connection ∧ connection.id = id) ∨
    ∃ member ∈ (world.session call.session).members, member.id = id

end HookCall

namespace Session

theorem eq_of_remains {session stored : Session}
    (same : session.remains = some stored) : session = stored := by
  unfold remains at same
  split at same
  · cases same
  · exact Option.some.inj same

theorem members_without (session : Session) (id : ConnectionId) :
    (session.without id).members ⊆ session.members := by
  have detached (session : Session) (id : ConnectionId) :
      (session.detach id).members ⊆ session.members := List.filter_sublist.subset
  unfold without
  cases session.partner? id with
  | none => exact detached session id
  | some other => exact List.Subset.trans (detached _ other.id) (detached session id)

end Session

namespace World

variable {world : World Relay}

theorem session_congr {left right : World Relay} {id : SessionId}
    (same : left.sessions id = right.sessions id) : left.session id = right.session id := by
  rw [World.session, World.session, same]

/-- What a call leaves: another value for its own session, in which nobody is a member
who was none before and is not just opened, and at most one changed wire, which is one
that it reaches. A mark on that wire stays. -/
structure Leaves (world : World Relay) (call : HookCall) (stored : Option Session)
    (target : Option (ConnectionId × Wire)) : Prop where
  sessions : (world.after call).sessions = update world.sessions call.session stored
  wire : (world.after call).wire =
    target.elim world.wire fun changed => update world.wire changed.1 changed.2
  known : ∀ session, stored = some session → ∀ member ∈ session.members,
    member ∈ (world.session call.session).members ∨ call = .opened member
  reached : ∀ changed, target = some changed → call.Reaches world changed.1
  marked : ∀ changed, target = some changed →
    (world.wire changed.1).closing = true → changed.2.closing = true

/-- Nothing is left of a call that shows no change. -/
theorem Leaves.of_unchanged {call : HookCall} {result : Except SignalingError Unit}
    (shown : (Relay.hooks.answer call world).Shows result world.sessions world.wire) :
    world.Leaves call (world.sessions call.session) none where
  sessions := by
    rw [Function.update_eq_self]
    exact shown.sessions
  wire := shown.wire
  known session present member inside := by
    rw [session_of_sessions present]
    exact .inl inside
  reached := nofun
  marked := nofun

/-- A call that leaves the sessions alone may still change the wire of somebody whom
it reaches. -/
theorem Leaves.of_wire {call : HookCall} {result : Except SignalingError Unit}
    {id : ConnectionId} {changed : Wire}
    (shown : (Relay.hooks.answer call world).Shows result world.sessions
      (update world.wire id changed)) (reached : call.Reaches world id)
    (marked : (world.wire id).closing = true → changed.closing = true) :
    world.Leaves call (world.sessions call.session) (some (id, changed)) where
  sessions := by
    rw [Function.update_eq_self]
    exact shown.sessions
  wire := shown.wire
  known session present member inside := by
    rw [session_of_sessions present]
    exact .inl inside
  reached _ same := by
    cases same
    exact reached
  marked _ same := by
    cases same
    exact marked

theorem exists_leaves_notify (connection : Connection) {text : Octets} {data : Payload}
    (sound : world.core.poisoned = false) (heard : Request.parse text = .ok (.notify data)) :
    ∃ stored target, world.Leaves (.message connection text) stored target := by
  cases closing : (world.wire connection.id).closing with
  | true => exact ⟨_, _, .of_unchanged (Relay.message_of_closing connection heard closing)⟩
  | false =>
      cases other : (world.session connection.session).otherMember connection.id with
      | some peer =>
          exact ⟨_, _, .of_wire
            (Relay.message_of_otherMember connection sound heard closing other)
            (.inr ⟨peer, Session.mem_of_otherMember other, rfl⟩) (Wire.closing_offered _ _).mpr⟩
      | none =>
          have shown := Relay.message_of_no_otherMember connection sound heard closing other
          refine ⟨_, none, shown.sessions, shown.wire, ?_, nofun, nofun⟩
          intro session same member inside
          cases same
          exact .inl inside

/-- Every call leaves something of this form. -/
theorem exists_leaves (sound : world.core.poisoned = false) (call : HookCall) :
    ∃ stored target, world.Leaves call stored target := by
  cases call with
  | handshake id => exact ⟨_, _, .of_unchanged (Relay.handshake_shows id world)⟩
  | opened connection =>
      cases room : (world.session connection.session).isFull with
      | true => exact ⟨_, _, .of_unchanged (Relay.opened_of_isFull connection sound room)⟩
      | false =>
          have shown := Relay.opened_of_room connection sound room
          refine ⟨_, some (connection.id, _), shown.sessions, shown.wire, ?_, ?_, ?_⟩
          · intro session same member inside
            cases same
            rcases List.mem_append.mp inside with earlier | last
            · exact .inl earlier
            · obtain rfl := List.mem_singleton.mp last
              exact .inr rfl
          · intro changed same
            cases same
            exact .inl ⟨connection, rfl, rfl⟩
          · intro changed same
            cases same
            exact (Wire.closing_offered _ _).mpr
  | message connection text =>
      cases parsed : Request.parse text with
      | error fault => exact ⟨_, _, .of_unchanged (Relay.message_of_fault connection parsed)⟩
      | ok request =>
          cases request with
          | getConfiguration msgId =>
              exact ⟨_, _, .of_wire (Relay.message_of_getConfiguration connection parsed)
                (.inl ⟨connection, rfl, rfl⟩) (Wire.closing_offered _ _).mpr⟩
          | notify data => exact exists_leaves_notify connection sound parsed
          | unrecognized reason =>
              exact ⟨_, _, .of_unchanged (Relay.message_of_unrecognized connection parsed)⟩
  | closed connection =>
      cases present : world.sessions connection.session with
      | none => exact ⟨_, _, .of_unchanged (Relay.closed_of_absent connection sound present)⟩
      | some session =>
          have shown := Relay.closed_of_present connection sound present
          refine ⟨_, (session.partner? connection.id).map fun peer =>
            (peer.id, (world.wire peer.id).marked), shown.sessions, ?_, ?_, ?_, ?_⟩
          · rw [show (world.after (.closed connection)).wire = _ from shown.wire]
            cases session.partner? connection.id <;> rfl
          · intro stored same member inside
            obtain rfl := Session.eq_of_remains same
            left
            rw [HookCall.session, session_of_sessions present]
            exact Session.members_without session connection.id inside
          · intro changed same
            obtain ⟨peer, found, rfl⟩ := Option.map_eq_some_iff.mp same
            refine .inr ⟨peer, ?_, rfl⟩
            rw [HookCall.session, session_of_sessions present]
            exact Session.mem_of_partner? found
          · intro changed same marked
            obtain ⟨peer, found, rfl⟩ := Option.map_eq_some_iff.mp same
            rfl

/-- Another session is not touched. -/
theorem Leaves.sessions_of_ne {call : HookCall} {stored : Option Session}
    {target : Option (ConnectionId × Wire)} (leaves : world.Leaves call stored target)
    {id : SessionId} (other : id ≠ call.session) :
    (world.after call).sessions id = world.sessions id := by
  rw [leaves.sessions, Function.update_of_ne other]

/-- A wire that is not reached is not touched. -/
theorem Leaves.wire_of_not_reaches {call : HookCall} {stored : Option Session}
    {target : Option (ConnectionId × Wire)} (leaves : world.Leaves call stored target)
    {id : ConnectionId} (outside : ¬ call.Reaches world id) :
    (world.after call).wire id = world.wire id := by
  rw [leaves.wire]
  cases target with
  | none => rfl
  | some changed =>
      have other : id ≠ changed.1 := by
        rintro rfl
        exact outside (leaves.reached changed rfl)
      exact Function.update_of_ne other _ _

/-- A mark is never taken away. -/
theorem closing_after (sound : world.core.poisoned = false) (call : HookCall)
    {id : ConnectionId} (marked : (world.wire id).closing = true) :
    ((world.after call).wire id).closing = true := by
  obtain ⟨stored, target, leaves⟩ := exists_leaves sound call
  rw [leaves.wire]
  cases target with
  | none => exact marked
  | some changed =>
      by_cases same : id = changed.1
      · subst same
        rw [Option.elim_some, Function.update_self]
        exact leaves.marked changed rfl marked
      · rw [Option.elim_some, Function.update_of_ne same]
        exact marked

theorem closing_afterAll (sound : world.core.poisoned = false) (history : History)
    {id : ConnectionId} (marked : (world.wire id).closing = true) :
    ((world.afterAll history).wire id).closing = true := by
  induction history generalizing world with
  | nil => exact marked
  | cons call rest ih =>
      rw [afterAll_cons]
      apply ih
      · rwa [poisoned_after]
      · exact closing_after sound call marked

/-! ## What one call does in two worlds -/

/-- Two worlds agree on the sessions that are near and on the wires of a circle. -/
structure Alike (near : SessionId → Prop) (circle : ConnectionId → Prop)
    (left right : World Relay) : Prop where
  configuration : left.core.configuration = right.core.configuration
  sound : left.core.poisoned = false
  sound' : right.core.poisoned = false
  sessions : ∀ id, near id → left.sessions id = right.sessions id
  wire : ∀ id, circle id → left.wire id = right.wire id

/-- A call has the same result in two worlds and leaves worlds that look alike. -/
structure AlikeAfter (near : SessionId → Prop) (circle : ConnectionId → Prop)
    (left right : World Relay) (call : HookCall) : Prop where
  result : left.result call = right.result call
  after : Alike near circle (left.after call) (right.after call)

namespace Alike

variable {near : SessionId → Prop} {circle : ConnectionId → Prop} {left right : World Relay}
  {call : HookCall}

theorem symm (alike : Alike near circle left right) : Alike near circle right left where
  configuration := alike.configuration.symm
  sound := alike.sound'
  sound' := alike.sound
  sessions id close := (alike.sessions id close).symm
  wire id inside := (alike.wire id inside).symm

/-- A call that changes nothing near and nothing in the circle is not noticed. -/
theorem after_left (alike : Alike near circle left right)
    (sessions : ∀ id, near id → (left.after call).sessions id = left.sessions id)
    (wire : ∀ id, circle id → (left.after call).wire id = left.wire id) :
    Alike near circle (left.after call) right where
  configuration := by rw [configuration_after, alike.configuration]
  sound := by rw [poisoned_after, alike.sound]
  sound' := alike.sound'
  sessions id close := (sessions id close).trans (alike.sessions id close)
  wire id inside := (wire id inside).trans (alike.wire id inside)

/-- A call that stays outside is not noticed. -/
theorem after_outside (alike : Alike near circle left right) (far : ¬ near call.session)
    (outside : ∀ id, circle id → ¬ call.Reaches left id) :
    Alike near circle (left.after call) right := by
  obtain ⟨stored, target, leaves⟩ := exists_leaves alike.sound call
  apply alike.after_left
  · intro id close
    exact leaves.sessions_of_ne fun same => far (same ▸ close)
  · intro id inside
    exact leaves.wire_of_not_reaches (outside id inside)

/-- What a call shows in two worlds is compared item by item. -/
theorem of_shows (alike : Alike near circle left right)
    {result result' : Except SignalingError Unit}
    {sessions sessions' : SessionId → Option Session} {wire wire' : ConnectionId → Wire}
    (shown : (Relay.hooks.answer call left).Shows result sessions wire)
    (shown' : (Relay.hooks.answer call right).Shows result' sessions' wire')
    (result_eq : result = result')
    (sessions_eq : ∀ id, near id → sessions id = sessions' id)
    (wire_eq : ∀ id, circle id → wire id = wire' id) :
    AlikeAfter near circle left right call := by
  refine ⟨?_, ?_, ?_, ?_, ?_, ?_⟩
  · exact shown.result.trans (result_eq.trans shown'.result.symm)
  · rw [configuration_after, configuration_after, alike.configuration]
  · rw [poisoned_after, alike.sound]
  · rw [poisoned_after, alike.sound']
  · intro id close
    rw [show (left.after call).sessions = sessions from shown.sessions,
      show (right.after call).sessions = sessions' from shown'.sessions]
    exact sessions_eq id close
  · intro id inside
    rw [show (left.after call).wire = wire from shown.wire,
      show (right.after call).wire = wire' from shown'.wire]
    exact wire_eq id inside

end Alike

/-- Two functions that agree somewhere still do so after the same change. -/
theorem update_agree {κ α : Type} [DecidableEq κ] {among : κ → Prop} {left right : κ → α}
    (agree : ∀ key, among key → left key = right key) {key : κ} {one other : α}
    (same : one = other) (place : κ) (inside : among place) :
    update left key one place = update right key other place := by
  rw [Function.update_apply, Function.update_apply, same, agree place inside]

namespace Alike

variable {near : SessionId → Prop} {circle : ConnectionId → Prop} {left right : World Relay}
  {connection : Connection}

theorem opened (alike : Alike near circle left right) (close : near connection.session)
    (inside : circle connection.id) :
    AlikeAfter near circle left right (.opened connection) := by
  have session_eq := session_congr (alike.sessions _ close)
  cases room : (left.session connection.session).isFull with
  | true =>
      exact alike.of_shows (Relay.opened_of_isFull connection alike.sound room)
        (Relay.opened_of_isFull connection alike.sound' (session_eq ▸ room))
        (by rw [session_eq]) alike.sessions alike.wire
  | false =>
      exact alike.of_shows (Relay.opened_of_room connection alike.sound room)
        (Relay.opened_of_room connection alike.sound' (session_eq ▸ room))
        rfl (update_agree alike.sessions (by rw [session_eq]))
        (update_agree alike.wire (by rw [session_eq, alike.wire _ inside]))

theorem notify (alike : Alike near circle left right) {text : Octets} {data : Payload}
    (heard : Request.parse text = .ok (.notify data)) (close : near connection.session)
    (inside : ∀ id, (HookCall.message connection text).Reaches left id → circle id) :
    AlikeAfter near circle left right (.message connection text) := by
  have session_eq := session_congr (alike.sessions _ close)
  have wire_eq := alike.wire connection.id (inside _ (.inl ⟨connection, rfl, rfl⟩))
  cases closing : (left.wire connection.id).closing with
  | true =>
      exact alike.of_shows (Relay.message_of_closing connection heard closing)
        (Relay.message_of_closing connection heard (wire_eq ▸ closing))
        rfl alike.sessions alike.wire
  | false =>
      cases other : (left.session connection.session).otherMember connection.id with
      | some peer =>
          have reached : circle peer.id :=
            inside _ (.inr ⟨peer, Session.mem_of_otherMember other, rfl⟩)
          exact alike.of_shows
            (Relay.message_of_otherMember connection alike.sound heard closing other)
            (Relay.message_of_otherMember connection alike.sound' heard (wire_eq ▸ closing)
              (session_eq ▸ other))
            rfl alike.sessions (update_agree alike.wire (by rw [alike.wire _ reached]))
      | none =>
          exact alike.of_shows
            (Relay.message_of_no_otherMember connection alike.sound heard closing other)
            (Relay.message_of_no_otherMember connection alike.sound' heard (wire_eq ▸ closing)
              (session_eq ▸ other))
            rfl (update_agree alike.sessions (by rw [session_eq])) alike.wire

theorem message (alike : Alike near circle left right) {text : Octets}
    (close : near connection.session)
    (inside : ∀ id, (HookCall.message connection text).Reaches left id → circle id) :
    AlikeAfter near circle left right (.message connection text) := by
  cases parsed : Request.parse text with
  | error fault =>
      exact alike.of_shows (Relay.message_of_fault connection parsed)
        (Relay.message_of_fault connection parsed) rfl alike.sessions alike.wire
  | ok request =>
      cases request with
      | getConfiguration msgId =>
          have wire_eq := alike.wire connection.id (inside _ (.inl ⟨connection, rfl, rfl⟩))
          exact alike.of_shows (Relay.message_of_getConfiguration connection parsed)
            (Relay.message_of_getConfiguration connection parsed) (by rw [wire_eq])
            alike.sessions (update_agree alike.wire (by rw [wire_eq, alike.configuration]))
      | notify data => exact alike.notify parsed close inside
      | unrecognized reason =>
          exact alike.of_shows (Relay.message_of_unrecognized connection parsed)
            (Relay.message_of_unrecognized connection parsed) rfl alike.sessions alike.wire

theorem closed (alike : Alike near circle left right) (close : near connection.session)
    (inside : ∀ id, (HookCall.closed connection).Reaches left id → circle id) :
    AlikeAfter near circle left right (.closed connection) := by
  have sessions_eq := alike.sessions _ close
  cases present : left.sessions connection.session with
  | none =>
      exact alike.of_shows (Relay.closed_of_absent connection alike.sound present)
        (Relay.closed_of_absent connection alike.sound' (sessions_eq ▸ present))
        rfl alike.sessions alike.wire
  | some session =>
      refine alike.of_shows (Relay.closed_of_present connection alike.sound present)
        (Relay.closed_of_present connection alike.sound' (sessions_eq ▸ present))
        rfl (update_agree alike.sessions rfl) ?_
      cases found : session.partner? connection.id with
      | none => exact alike.wire
      | some peer =>
          have reached : circle peer.id := by
            refine inside _ (.inr ⟨peer, ?_, rfl⟩)
            rw [HookCall.session, session_of_sessions present]
            exact Session.mem_of_partner? found
          exact update_agree alike.wire (by rw [alike.wire _ reached])

/-- A call that stays within what two worlds share does the same in both. -/
theorem within (alike : Alike near circle left right) {call : HookCall}
    (close : near call.session) (inside : ∀ id, call.Reaches left id → circle id) :
    AlikeAfter near circle left right call := by
  cases call with
  | handshake id =>
      refine alike.of_shows (Relay.handshake_shows id left) (Relay.handshake_shows id right) ?_
        alike.sessions alike.wire
      rw [Relay.result_handshake alike.sound, Relay.result_handshake alike.sound',
        session_congr (alike.sessions id close)]
  | opened connection => exact alike.opened close (inside _ (.inl ⟨connection, rfl, rfl⟩))
  | message connection text => exact alike.message close inside
  | closed connection => exact alike.closed close inside

end Alike

end World

end Rendezvous
