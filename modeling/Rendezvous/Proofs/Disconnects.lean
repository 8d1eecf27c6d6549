/-
# Two ends in either order

Two connections of a session may end at about the same time, and the transport may tell of
either end first. The first may take the second along, or the session may go with all that
waits in it, or only what the one who ends has left behind goes; the second end then finds
another session than it would have found first. What is left after both is the same in
either order, and telling of an end twice is telling of it once.

Nothing is assumed of the calls before. That a session never has more than two members is
needed: of three, another two would be left in either order.
-/

import Rendezvous.Proofs.Refusals

namespace Rendezvous

open Function (update)

/-! ## Ends in one session -/

namespace Session

variable {session : Session} {id : SessionId} {gone first second : ConnectionId}

/-- What is stored of a session, if it exists, after the end of a connection. -/
def leftBy (stored : Option Session) (gone : ConnectionId) : Option Session :=
  stored.bind fun session => (session.without gone).remains

/-- Who is hung up by the end of a connection. -/
def hungUpBy (stored : Option Session) (gone : ConnectionId) : Option ConnectionId :=
  stored.bind fun session => (session.partner? gone).map Connection.id

theorem without_of_not_contains (absent : session.contains gone = false) :
    session.without gone = session.detach gone := by
  rw [without, partner?, absent]
  rfl

theorem partner?_of_not_contains (absent : session.contains gone = false) :
    session.partner? gone = none := by
  rw [partner?, absent]
  rfl

/-- Somebody who is no member leaves nothing but what it said. -/
theorem members_detach_of_not_contains (absent : session.contains gone = false) :
    (session.detach gone).members = session.members := by
  have apart : ∀ member ∈ session.members, member.id ≠ gone := by
    simpa [contains] using absent
  simpa [detach] using apart

theorem contains_congr {one other : Session} (same : one.members = other.members) :
    one.contains gone = other.contains gone := by
  rw [contains, contains, same]

theorem partner?_congr {one other : Session} (same : one.members = other.members) :
    one.partner? gone = other.partner? gone := by
  rw [partner?, partner?, contains_congr same, otherMember, otherMember, same]

/-- Besides a member there is its partner, in a session that holds two at most, and nobody
else. -/
theorem Fits.members_detach (fits : session.Fits id) (member : session.contains gone = true) :
    (session.detach gone).members = (session.partner? gone).toList := by
  have partner : session.partner? gone = (session.detach gone).members.head? := by
    rw [partner?, member, if_pos rfl, otherMember, Session.detach, List.head?_filter]
  obtain ⟨leaver, inside, rfl⟩ := contains_iff.mp member
  have fewer : (session.detach leaver.id).members.length < 2 := by
    have dropped : (session.detach leaver.id).members.length < session.members.length :=
      List.length_filter_lt_length_iff_exists.mpr ⟨leaver, inside, by simp⟩
    exact dropped.trans_le fits.within
  rw [partner]
  rcases rest : (session.detach leaver.id).members with _ | ⟨one, _ | ⟨another, more⟩⟩
  · rfl
  · rfl
  · rw [rest, List.length_cons, List.length_cons] at fewer
    omega

/-- Nothing is left of a session after the end of a member. -/
theorem Fits.leftBy_of_contains (fits : session.Fits id) (member : session.contains gone = true) :
    leftBy (some session) gone = none := by
  have beside := fits.members_detach member
  show (session.without gone).remains = none
  rw [Session.without]
  cases partner : session.partner? gone with
  | none => simp [Session.remains, isEmpty, beside, partner]
  | some peer =>
      have alone : ((session.detach gone).detach peer.id).members = [] := by
        rw [Session.detach, beside, partner]
        simp
      simp [Session.remains, isEmpty, alone]

theorem leftBy_of_not_contains (absent : session.contains gone = false) :
    leftBy (some session) gone = (session.detach gone).remains := by
  rw [leftBy, Option.bind_some, without_of_not_contains absent]

theorem hungUpBy_of_not_contains (absent : session.contains gone = false) :
    hungUpBy (some session) gone = none := by
  rw [hungUpBy, Option.bind_some, partner?_of_not_contains absent]
  rfl

/-- A session without members is as good as none to whoever ends. -/
theorem leftBy_remains (session : Session) (gone : ConnectionId) :
    leftBy session.remains gone = leftBy (some session) gone := by
  unfold remains
  split
  · next empty =>
    have nobody : session.members = [] := List.isEmpty_iff.mp empty
    have absent : session.contains gone = false := by simp [contains, nobody]
    rw [leftBy_of_not_contains absent, Session.remains, isEmpty,
      members_detach_of_not_contains absent, nobody]
    rfl
  · rfl

theorem hungUpBy_remains (session : Session) (gone : ConnectionId) :
    hungUpBy session.remains gone = hungUpBy (some session) gone := by
  unfold remains
  split
  · next empty =>
    have nobody : session.members = [] := List.isEmpty_iff.mp empty
    exact (hungUpBy_of_not_contains (by simp [contains, nobody])).symm
  · rfl

theorem not_contains_without (session : Session) (gone : ConnectionId) :
    (session.without gone).contains gone = false := by
  unfold without
  cases session.partner? gone with
  | none => exact contains_detach_self session gone
  | some peer =>
      rw [Option.elim_some, detach_comm]
      exact contains_detach_self (session.detach peer.id) gone

theorem detach_without (session : Session) (gone : ConnectionId) :
    (session.without gone).detach gone = session.without gone := by
  unfold without
  cases session.partner? gone with
  | none => exact detach_detach session gone
  | some peer => rw [Option.elim_some, detach_comm, detach_detach]

/-- Nothing more is left by an end that has been told of. -/
theorem leftBy_leftBy (stored : Option Session) (gone : ConnectionId) :
    leftBy (leftBy stored gone) gone = leftBy stored gone := by
  cases stored with
  | none => rfl
  | some session =>
      rw [show leftBy (some session) gone = (session.without gone).remains from rfl,
        leftBy_remains, leftBy_of_not_contains (not_contains_without session gone),
        detach_without]

/-- Nobody is hung up by an end that has been told of. -/
theorem hungUpBy_leftBy (stored : Option Session) (gone : ConnectionId) :
    hungUpBy (leftBy stored gone) gone = none := by
  cases stored with
  | none => rfl
  | some session =>
      rw [show leftBy (some session) gone = (session.without gone).remains from rfl,
        hungUpBy_remains]
      exact hungUpBy_of_not_contains (not_contains_without session gone)

section

variable {stored : Option Session} (within : ∀ session, stored = some session → session.Fits id)

include within

/-- Two ends leave the same of a session in either order. -/
theorem leftBy_comm (first second : ConnectionId) :
    leftBy (leftBy stored first) second = leftBy (leftBy stored second) first := by
  cases stored with
  | none => rfl
  | some session =>
      have fits : session.Fits id := within session rfl
      -- A member takes everything with it, before or after the end of somebody else.
      have member_first {member other : ConnectionId} (inside : session.contains member = true) :
          leftBy (leftBy (some session) member) other = none := by
        rw [fits.leftBy_of_contains inside]
        rfl
      have member_last {member other : ConnectionId} (inside : session.contains member = true)
          (absent : session.contains other = false) :
          leftBy (leftBy (some session) other) member = none := by
        rw [leftBy_of_not_contains absent, leftBy_remains]
        refine (fits.detach other).leftBy_of_contains ?_
        rwa [contains_congr (members_detach_of_not_contains absent)]
      have strangers {one other : ConnectionId} (absent : session.contains one = false)
          (absent' : session.contains other = false) :
          leftBy (leftBy (some session) one) other =
            ((session.detach one).detach other).remains := by
        rw [leftBy_of_not_contains absent, leftBy_remains, leftBy_of_not_contains]
        rwa [contains_congr (members_detach_of_not_contains absent)]
      cases here : session.contains first <;> cases there : session.contains second
      · rw [strangers here there, strangers there here, detach_comm]
      · rw [member_last there here, member_first there]
      · rw [member_first here, member_last here there]
      · rw [member_first here, member_first there]

/-- Apart from the two, the second end hangs up nobody whom the first would not have hung up,
and nobody is spared by it. -/
theorem hungUpBy_leftBy_iff {first other : ConnectionId} (apart : other ≠ first)
    (second : ConnectionId) :
    hungUpBy stored first = some other ∨ hungUpBy (leftBy stored first) second = some other ↔
      hungUpBy stored first = some other ∨ hungUpBy stored second = some other := by
  cases stored with
  | none => rfl
  | some session =>
      have fits : session.Fits id := within session rfl
      cases inside : session.contains first with
      | true =>
          have caught (found : hungUpBy (some session) second = some other) :
              hungUpBy (some session) first = some other := by
            obtain ⟨peer, partner, rfl⟩ := Option.map_eq_some_iff.mp found
            have beside : peer ∈ (session.detach first).members :=
              List.mem_filter.mpr ⟨mem_of_partner? partner, decide_eq_true apart⟩
            rw [fits.members_detach inside, Option.mem_toList] at beside
            rw [hungUpBy, Option.bind_some, beside]
            rfl
          rw [fits.leftBy_of_contains inside]
          constructor
          · exact fun hung => .inl (hung.resolve_right nofun)
          · exact fun hung => .inl (hung.elim (fun found => found) caught)
      | false =>
          have same : hungUpBy (leftBy (some session) first) second =
              hungUpBy (some session) second := by
            rw [leftBy_of_not_contains inside, hungUpBy_remains, hungUpBy, hungUpBy,
              Option.bind_some, Option.bind_some,
              partner?_congr (members_detach_of_not_contains inside)]
          rw [same]

end

end Session

/-! ## Ends in the world -/

namespace World

variable {world : World Relay} (first second : Connection)

theorem effect_closed_eq (connection : Connection) : world.effect (.closed connection) =
    ⟨.ok (), Session.leftBy (world.sessions connection.session) connection.id, none,
      Session.hungUpBy (world.sessions connection.session) connection.id⟩ :=
  rfl

/-- Two worlds differ in nothing but in who of a few is being hung up. -/
structure SameBut (few : ConnectionId → Prop) (one other : World Relay) : Prop where
  sessions : one.sessions = other.sessions
  outbox : ∀ id, (one.wire id).outbox = (other.wire id).outbox
  attended : ∀ id, (one.wire id).attended = (other.wire id).attended
  closing : ∀ id, ¬ few id → (one.wire id).closing = (other.wire id).closing

section

variable (sound : world.core.poisoned = false)

include sound

theorem sessions_closed (connection : Connection) :
    (world.after (.closed connection)).sessions = update world.sessions connection.session
      (Session.leftBy (world.sessions connection.session) connection.id) := by
  rw [sessions_after sound, effect_closed_eq]
  rfl

theorem outbox_closed (connection : Connection) (id : ConnectionId) :
    ((world.after (.closed connection)).wire id).outbox = (world.wire id).outbox := by
  rw [outbox_after sound, effect_closed_eq]
  simp [Effect.mail]

theorem closing_closed (connection : Connection) (id : ConnectionId) :
    ((world.after (.closed connection)).wire id).closing = true ↔
      Session.hungUpBy (world.sessions connection.session) connection.id = some id ∨
        (world.wire id).closing = true := by
  rw [closing_eq_after sound, effect_closed_eq, Bool.or_eq_true, decide_eq_true_iff]

end

theorem InOrder.fits (order : world.InOrder) {id : SessionId} (session : Session)
    (present : world.sessions id = some session) : session.Fits id := by
  rw [← session_of_sessions present]
  exact order id

section

variable (order : world.InOrder) (sound : world.core.poisoned = false)

include order sound

/-- Two ends leave the same sessions in either order. -/
theorem sessions_closed_comm :
    ((world.after (.closed first)).after (.closed second)).sessions =
      ((world.after (.closed second)).after (.closed first)).sessions := by
  have sound' (connection : Connection) :
      (world.after (.closed connection)).core.poisoned = false := by rw [poisoned_after, sound]
  rw [sessions_closed (sound' first), sessions_closed (sound' second), sessions_closed sound,
    sessions_closed sound]
  by_cases same : first.session = second.session
  · rw [same, Function.update_self, Function.update_self, Function.update_idem,
      Function.update_idem, Session.leftBy_comm order.fits]
  · rw [Function.update_of_ne (Ne.symm same), Function.update_of_ne same,
      Function.update_comm same]

/-- After two ends everybody else is hung up who would be so after one of them alone. -/
theorem closing_closed_closed {id : ConnectionId} (apart : id ≠ first.id) :
    (((world.after (.closed first)).after (.closed second)).wire id).closing = true ↔
      (Session.hungUpBy (world.sessions first.session) first.id = some id ∨
        Session.hungUpBy (world.sessions second.session) second.id = some id) ∨
        (world.wire id).closing = true := by
  have sound' : (world.after (.closed first)).core.poisoned = false := by
    rw [poisoned_after, sound]
  rw [closing_closed sound', closing_closed sound, sessions_closed sound, ← or_assoc]
  refine or_congr_left ?_
  by_cases same : second.session = first.session
  · rw [same, Function.update_self, or_comm,
      Session.hungUpBy_leftBy_iff order.fits apart second.id]
  · rw [Function.update_of_ne same, or_comm]

end

/-- An end that is told of twice is told of once. -/
theorem closed_closed (sound : world.core.poisoned = false) (connection : Connection) :
    SameBut (fun _ => False) ((world.after (.closed connection)).after (.closed connection))
      (world.after (.closed connection)) := by
  have sound' : (world.after (.closed connection)).core.poisoned = false := by
    rw [poisoned_after, sound]
  have left : (world.after (.closed connection)).sessions connection.session =
      Session.leftBy (world.sessions connection.session) connection.id := by
    rw [sessions_closed sound, Function.update_self]
  constructor
  case sessions =>
    rw [sessions_closed sound', left, Session.leftBy_leftBy, ← left, Function.update_eq_self]
  case outbox => exact outbox_closed sound' connection
  case attended => exact attended_after sound' (.closed connection)
  case closing =>
    intro id _
    rw [Bool.eq_iff_iff, closing_closed sound', left, Session.hungUpBy_leftBy]
    simp

end World

/-- What comes of two ends: the same in either order, and nothing more if the first is told of
again. -/
structure EndInAnyOrder (world : World Relay) (first second : Connection) : Prop where
  /-- The two themselves may be hung up by each other in one of the orders only. -/
  either : World.SameBut (fun id => id = first.id ∨ id = second.id)
    ((world.after (.closed first)).after (.closed second))
    ((world.after (.closed second)).after (.closed first))
  twice : World.SameBut (fun _ => False)
    ((world.after (.closed first)).after (.closed first)) (world.after (.closed first))

/-- After any run, two ends may be told of in either order, and each of them twice. -/
theorem endInAnyOrder_incurAll (configuration : PeerConfiguration) (run : List Incident)
    (first second : Connection) :
    EndInAnyOrder ((Relay.initial configuration).incurAll run) first second := by
  have sound := World.poisoned_incurAll configuration run
  have order := World.inOrder_incurAll configuration run
  generalize (Relay.initial configuration).incurAll run = world at sound order
  have sound' (connection : Connection) :
      (world.after (.closed connection)).core.poisoned = false := by
    rw [World.poisoned_after, sound]
  refine ⟨⟨?_, ?_, ?_, ?_⟩, ?_⟩
  · exact World.sessions_closed_comm first second order sound
  · intro id
    rw [World.outbox_closed (sound' first), World.outbox_closed (sound' second),
      World.outbox_closed sound, World.outbox_closed sound]
  · intro id
    rw [World.attended_after (sound' first), World.attended_after (sound' second),
      World.attended_after sound, World.attended_after sound]
  · intro id outside
    rw [not_or] at outside
    rw [Bool.eq_iff_iff, World.closing_closed_closed first second order sound outside.1,
      World.closing_closed_closed second first order sound outside.2]
    exact or_congr_left or_comm
  · exact World.closed_closed sound first

end Rendezvous
