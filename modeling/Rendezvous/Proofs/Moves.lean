/-
# What a call may do

While the transport keeps its promise a call does one of eight things, listed in
`Move` with all that they change. What is to hold along every orderly history is
proved move by move, from what each of them says about sessions and wires.
-/

import Rendezvous.Proofs.Stages

namespace Rendezvous

open Function (update)

/-- What leaves all sessions and wires as they are: a handshake, an opening that is
turned away, a text without a message or from a connection that is hung up, and the
end of a connection that is no member. -/
def Idle (before : World Relay) : HookCall → Except SignalingError Unit → Prop
  | .handshake _, _ => True
  | .opened _, result => result ≠ .ok ()
  | .message connection text, _ =>
    ∀ data, Request.parse text = .ok (.notify data) →
      (before.wire connection.id).closing = true
  | .closed connection, _ => ¬ before.Member connection

/-- What a call may do while the transport keeps its promise. -/
inductive Move (before after : World Relay) : HookCall → Except SignalingError Unit → Prop
  /-- Nothing happens. -/
  | idle {call : HookCall} {result : Except SignalingError Unit}
    (still : Idle before call result) (sessions : after.sessions = before.sessions)
    (wire : after.wire = before.wire) : Move before after call result
  /-- A connection is the first to come. -/
  | entered {connection : Connection} (vacant : before.sessions connection.session = none)
    (sessions : after.sessions =
      update before.sessions connection.session (some (.lone connection [])))
    (wire : after.wire = before.wire) : Move before after (.opened connection) (.ok ())
  /-- A connection meets the one that waits and gets all that it has said. -/
  | met {connection host : Connection} {said : List Payload}
    (waiting : before.sessions connection.session = some (.lone host said))
    (home : host.session = connection.session) (differ : host.id ≠ connection.id)
    (sessions : after.sessions =
      update before.sessions connection.session (some (.pair host connection)))
    (wire : after.wire = update before.wire connection.id
      ((before.wire connection.id).carrying (said.map .notify))) :
    Move before after (.opened connection) (.ok ())
  /-- A connection gets the configuration. -/
  | answered {connection : Connection} {text : Octets} {msgId : Option Payload}
    (asked : Request.parse text = .ok (.getConfiguration msgId))
    (sessions : after.sessions = before.sessions)
    (wire : after.wire = update before.wire connection.id
      ((before.wire connection.id).carrying
        [.configuration before.core.configuration msgId])) :
    Move before after (.message connection text) (.ok ())
  /-- What the waiting member says is kept. -/
  | kept {connection : Connection} {text : Octets} {data : Payload} {said : List Payload}
    (heard : Request.parse text = .ok (.notify data))
    (waiting : before.sessions connection.session = some (.lone connection said))
    (sessions : after.sessions = update before.sessions connection.session
      (some (.lone connection (said ++ [data]))))
    (wire : after.wire = before.wire) : Move before after (.message connection text) (.ok ())
  /-- What a member says is passed on to the other. -/
  | passed {connection peer : Connection} {text : Octets} {data : Payload}
    (heard : Request.parse text = .ok (.notify data))
    (together : before.Paired connection peer)
    (sessions : after.sessions = before.sessions)
    (wire : after.wire = update before.wire peer.id
      ((before.wire peer.id).carrying [.notify data])) :
    Move before after (.message connection text) (.ok ())
  /-- The waiting member leaves, and the session with it. -/
  | left {connection : Connection} {said : List Payload}
    (waiting : before.sessions connection.session = some (.lone connection said))
    (sessions : after.sessions = update before.sessions connection.session none)
    (wire : after.wire = before.wire) : Move before after (.closed connection) (.ok ())
  /-- A member leaves, the other is hung up, and the session is gone. -/
  | parted {connection peer : Connection} (together : before.Paired connection peer)
    (sessions : after.sessions = update before.sessions connection.session none)
    (wire : after.wire = update before.wire peer.id (before.wire peer.id).marked) :
    Move before after (.closed connection) (.ok ())

/-- The call is one of the moves. -/
def World.Moves (world : World Relay) (call : HookCall) : Prop :=
  Move world (world.after call) call (world.result call)

/-- A move is recognised by what a call shows. -/
theorem Outcome.Shows.moves {world : World Relay} {call : HookCall}
    {result : Except SignalingError Unit} {sessions : SessionId → Option Session}
    {wire : ConnectionId → Wire}
    (shown : (Relay.hooks.answer call world).Shows result sessions wire)
    (move : ∀ after : World Relay, after.sessions = sessions → after.wire = wire →
      Move world after call result) : world.Moves call := by
  have moved := move (world.after call) shown.sessions shown.wire
  rw [← shown.result] at moved
  exact moved

/-! ## What one move preserves -/

namespace Move

variable {before after : World Relay} {call : HookCall} {result : Except SignalingError Unit}

/-- No call puts anybody on a wire or takes anybody off. -/
theorem attended (move : Move before after call result) (id : ConnectionId) :
    (after.wire id).attended = (before.wire id).attended := by
  have carried (other : ConnectionId) (wire : Wire)
      (same : wire.attended = (before.wire other).attended) :
      (update before.wire other wire id).attended = (before.wire id).attended := by
    rw [Function.update_apply]
    split
    · next found => rw [found, same]
    · rfl
  cases move with
  | idle _ _ wire | entered _ _ wire | kept _ _ _ wire | left _ _ wire => rw [wire]
  | met _ _ _ _ wire | answered _ _ wire | passed _ _ _ wire | parted _ _ wire =>
      rw [wire]
      exact carried _ _ rfl

/-- A call that fails changes nothing. -/
theorem of_error {error : SignalingError} (move : Move before after call (.error error)) :
    after.sessions = before.sessions ∧ after.wire = before.wire := by
  cases move with
  | idle _ sessions wire => exact ⟨sessions, wire⟩

theorem staged (move : Move before after call result) (all : before.Staged) : after.Staged := by
  have stored {id : SessionId} {session : Option Session} (stage : Stage id session) :
      ∀ other, Stage other (update before.sessions id session other) := by
    intro other
    by_cases same : other = id
    · subst same
      rwa [Function.update_self]
    · rw [Function.update_of_ne same]
      exact all other
  intro id
  cases move with
  | idle _ sessions _ | answered _ sessions _ | passed _ _ sessions _ =>
      rw [sessions]
      exact all id
  | entered _ sessions _ | kept _ _ sessions _ =>
      rw [sessions]
      exact stored (.lone rfl) id
  | met _ home differ sessions _ =>
      rw [sessions]
      exact stored (.pair home rfl differ) id
  | left _ sessions _ | parted _ sessions _ =>
      rw [sessions]
      exact stored .vacant id

/-- Only the one that a member leaves behind is marked. -/
theorem closing_iff (move : Move before after call result) (all : before.Staged)
    (id : ConnectionId) :
    (after.wire id).closing = true ↔ (before.wire id).closing = true ∨
      ∃ connection peer, call = .closed connection ∧ before.Paired connection peer ∧
        peer.id = id := by
  have unmarked {changed : ConnectionId → Wire}
      (same : (changed id).closing = (before.wire id).closing)
      (nobody : ∀ connection peer, call = .closed connection →
        ¬ before.Paired connection peer) :
      (changed id).closing = true ↔ (before.wire id).closing = true ∨
        ∃ connection peer, call = .closed connection ∧ before.Paired connection peer ∧
          peer.id = id := by
    rw [same]
    refine ⟨.inl, ?_⟩
    rintro (closing | ⟨connection, peer, ended, together, -⟩)
    · exact closing
    · exact absurd together (nobody connection peer ended)
  have carried (other : ConnectionId) (messages : List Outgoing) :
      (update before.wire other ((before.wire other).carrying messages) id).closing =
        (before.wire id).closing := by
    rw [Function.update_apply]
    split
    · next same => rw [same]; rfl
    · rfl
  cases move with
  | idle still _ wire =>
      rw [wire]
      apply unmarked rfl
      intro connection peer ended together
      subst ended
      exact still (together.member all)
  | entered _ _ wire | kept _ _ _ wire =>
      rw [wire]
      exact unmarked rfl nofun
  | met _ _ _ _ wire | answered _ _ wire | passed _ _ _ wire =>
      rw [wire]
      exact unmarked (carried _ _) nofun
  | left waiting _ wire =>
      rw [wire]
      apply unmarked rfl
      intro connection peer ended
      cases ended
      exact World.not_paired_of_lone waiting all
  | @parted connection peer together _ wire =>
      rw [wire, Function.update_apply]
      split
      · next same =>
        subst same
        exact ⟨fun _ => .inr ⟨connection, peer, rfl, together, rfl⟩, fun _ => rfl⟩
      · next other =>
        refine ⟨.inl, ?_⟩
        rintro (closing | ⟨ended, left, same, apart, rfl⟩)
        · exact closing
        · cases same
          exact absurd (congrArg Connection.id (apart.eq_of_paired together all)) other

/-- Who is taken in becomes a member; who ends is none any longer, and takes the one
it is paired with along. -/
theorem member_iff (move : Move before after call result) (all : before.Staged)
    (connection : Connection) :
    after.Member connection ↔
      before.Member connection ∧ call ≠ .closed connection ∧
          (∀ other, call = .closed other → ¬ before.Paired other connection) ∨
        call = .opened connection ∧ result = .ok () := by
  cases move with
  | idle still sessions _ =>
      rw [World.member_congr sessions]
      constructor
      · intro member
        refine .inl ⟨member, ?_, ?_⟩
        · rintro rfl
          exact still member
        · rintro other rfl together
          exact still (together.member all)
      · rintro (⟨member, -⟩ | ⟨rfl, taken⟩)
        · exact member
        · exact absurd taken still
  | @entered newcomer vacant sessions _ =>
      rw [World.member_of_update sessions]
      split
      · next near => simp [World.Member, near, vacant, eq_comm]
      · next far => simp [show newcomer ≠ connection from fun same => far (by rw [same])]
  | @met newcomer host said waiting home differ sessions _ =>
      rw [World.member_of_update sessions]
      split
      · next near => simp [World.Member, near, waiting, eq_comm]
      · next far => simp [show newcomer ≠ connection from fun same => far (by rw [same])]
  | answered _ sessions _ | passed _ _ sessions _ =>
      rw [World.member_congr sessions]
      simp
  | @kept speaker text data said heard waiting sessions _ =>
      rw [World.member_of_update sessions]
      split
      · next near => simp [World.Member, near, waiting]
      · next far => simp
  | @left leaver said waiting sessions _ =>
      rw [World.member_of_update sessions]
      split
      · next near =>
        have only := World.member_of_lone waiting near
        simp only [only, reduceCtorEq, false_and, exists_false, or_false, false_iff, not_and]
        rintro rfl differs
        exact absurd rfl differs
      · next far =>
        have differs : leaver ≠ connection := fun same => far (by rw [same])
        have apart : ¬ before.Paired leaver connection := World.not_paired_of_lone waiting all
        simp [differs, apart]
  | @parted leaver peer together sessions _ =>
      rw [World.member_of_update sessions]
      split
      · next near =>
        have both := together.mem_iff all near
        simp only [both, reduceCtorEq, false_and, exists_false, or_false, false_iff, not_and]
        rintro (rfl | rfl) differs
        · exact absurd rfl differs
        · exact fun alone => alone leaver rfl together
      · next far =>
        have differs : leaver ≠ connection := fun same => far (by rw [same])
        have apart : ¬ before.Paired leaver connection := fun paired =>
          far (paired.sessions_eq all).1
        simp [differs, apart]

/-- Who is taken in comes to stand last. -/
theorem arrived (move : Move before after call result) {arrivals : List Connection}
    (all : ∀ id session, before.sessions id = some session →
      session.members.Sublist arrivals)
    {id : SessionId} {session : Session} (present : after.sessions id = some session) :
    session.members.Sublist (arrivals ++ History.arrivals [call]) := by
  have longer {members : List Connection} (listed : members.Sublist arrivals) :
      members.Sublist (arrivals ++ History.arrivals [call]) :=
    listed.trans (List.sublist_append_left arrivals _)
  have stored {other : SessionId} {changed : Option Session}
      (sessions : after.sessions = update before.sessions other changed)
      (listed : ∀ session, changed = some session →
        session.members.Sublist (arrivals ++ History.arrivals [call])) :
      session.members.Sublist (arrivals ++ History.arrivals [call]) := by
    rw [sessions, Function.update_apply] at present
    split at present
    · exact listed session present
    · exact longer (all id session present)
  cases move with
  | idle _ sessions _ | answered _ sessions _ | passed _ _ sessions _ =>
      rw [sessions] at present
      exact longer (all id session present)
  | @entered newcomer _ sessions _ =>
      apply stored sessions
      intro session same
      cases same
      exact List.sublist_append_right arrivals [newcomer]
  | @met newcomer host said waiting home differ sessions _ =>
      apply stored sessions
      intro session same
      cases same
      exact (all _ _ waiting).append (.refl [newcomer])
  | kept _ waiting sessions _ =>
      apply stored sessions
      intro session same
      cases same
      have listed := all _ _ waiting
      exact longer listed
  | left _ sessions _ | parted _ sessions _ =>
      exact stored sessions nofun

end Move

/-! ## When a call is a move -/

namespace World

variable {world : World Relay} {connection : Connection}

/-- A connection may be opened that nobody in its session is taken for. -/
theorem moves_opened (sound : world.core.poisoned = false) (staged : world.Staged)
    (attended : (world.wire connection.id).attended = true)
    (fresh : ∀ member, world.Member member → member.id ≠ connection.id) :
    world.Moves (.opened connection) := by
  generalize present : world.sessions connection.session = stored
  have stage := staged.stage_of_eq present
  have session_eq : world.session connection.session =
      stored.getD (Session.new connection.session) := by rw [World.session, present]
  cases stage with
  | vacant =>
      have shown := Relay.opened_of_room connection sound (by rw [session_eq]; rfl)
      rw [session_eq, Option.getD_none, Session.welcoming_new, Session.waiting_new,
        List.map_nil, Wire.offered_nil, Function.update_eq_self] at shown
      exact shown.moves fun _ sessions wire => .entered present sessions wire
  | @lone host said home =>
      have shown := Relay.opened_of_room connection sound (by rw [session_eq]; rfl)
      rw [session_eq, Option.getD_some, Session.welcoming_lone, Session.waiting_lone,
        Wire.offered_of_attended attended] at shown
      have inside : world.Member host := (member_of_lone (home ▸ present) rfl).mpr rfl
      exact shown.moves fun _ sessions wire =>
        .met present home (fresh host inside) sessions wire
  | pair home home' differ =>
      have shown := Relay.opened_of_isFull connection sound (by rw [session_eq]; rfl)
      refine shown.moves fun _ sessions wire => .idle ?_ sessions wire
      intro taken
      cases taken

/-- A member that is not hung up speaks to the other, or to the one who is to come. -/
theorem moves_notify (sound : world.core.poisoned = false) (staged : world.Staged)
    (attended : ∀ peer, world.Paired connection peer → (world.wire peer.id).attended = true)
    {text : Octets} {data : Payload} (heard : Request.parse text = .ok (.notify data))
    (closing : (world.wire connection.id).closing = false) (member : world.Member connection) :
    world.Moves (.message connection text) := by
  rcases member.lone_or_paired staged with ⟨said, waiting⟩ | ⟨peer, together⟩
  · have session_eq := session_of_sessions waiting
    have shown := Relay.message_of_no_otherMember connection sound heard closing
      (by rw [session_eq, Session.otherMember_lone])
    rw [session_eq, Session.enqueue_lone] at shown
    exact shown.moves fun _ sessions wire => .kept heard waiting sessions wire
  · obtain ⟨session, present, other, -⟩ := together.exists_session staged
    have shown := Relay.message_of_otherMember connection sound heard closing
      (by rw [session_of_sessions present, other])
    rw [Wire.offered_of_attended (attended peer together)] at shown
    exact shown.moves fun _ sessions wire => .passed heard together sessions wire

theorem moves_message (sound : world.core.poisoned = false) (staged : world.Staged)
    (attended : (world.wire connection.id).attended = true)
    (attended_of_paired : ∀ peer, world.Paired connection peer →
      (world.wire peer.id).attended = true)
    (member : (world.wire connection.id).closing = false → world.Member connection)
    (text : Octets) : world.Moves (.message connection text) := by
  cases parsed : Request.parse text with
  | error fault =>
      refine (Relay.message_of_fault connection parsed).moves fun _ sessions wire =>
        .idle (fun data heard => ?_) sessions wire
      cases parsed.symm.trans heard
  | ok request =>
      cases request with
      | getConfiguration msgId =>
          have shown : (Relay.hooks.answer _ world).Shows _ _ _ :=
            Relay.message_of_getConfiguration connection parsed
          rw [if_pos attended, Wire.offered_of_attended attended] at shown
          exact shown.moves fun _ sessions wire => .answered parsed sessions wire
      | notify data =>
          cases closing : (world.wire connection.id).closing with
          | true =>
              exact (Relay.message_of_closing connection parsed closing).moves
                fun _ sessions wire => .idle (fun _ _ => closing) sessions wire
          | false =>
              exact moves_notify sound staged attended_of_paired parsed closing (member closing)
      | unrecognized reason =>
          refine (Relay.message_of_unrecognized connection parsed).moves fun _ sessions wire =>
            .idle (fun data heard => ?_) sessions wire
          cases parsed.symm.trans heard

/-- A member that ends takes the session with it, and the other member if there is
one. -/
theorem moves_closed_of_member (sound : world.core.poisoned = false) (staged : world.Staged)
    (member : world.Member connection) : world.Moves (.closed connection) := by
  rcases member.lone_or_paired staged with ⟨said, waiting⟩ | ⟨peer, together⟩
  · have shown := Relay.closed_of_present connection sound waiting
    rw [Session.partner?_lone, Option.elim_none, Session.remains_without_lone] at shown
    exact shown.moves fun _ sessions wire => .left waiting sessions wire
  · obtain ⟨session, present, -, partner, remains⟩ := together.exists_session staged
    have shown := Relay.closed_of_present connection sound present
    rw [partner, Option.elim_some, remains] at shown
    exact shown.moves fun _ sessions wire => .parted together sessions wire

/-- A connection may end that is a member or that nobody in its session is taken for. -/
theorem moves_closed (sound : world.core.poisoned = false) (staged : world.Staged)
    (stranger : ¬ world.Member connection →
      ∀ member ∈ (world.session connection.session).members, member.id ≠ connection.id) :
    world.Moves (.closed connection) := by
  by_cases member : world.Member connection
  · exact moves_closed_of_member sound staged member
  · exact (Relay.closed_of_stranger sound staged (stranger member)).moves
      fun _ sessions wire => .idle member sessions wire

theorem moves_handshake (world : World Relay) (session : SessionId) :
    world.Moves (.handshake session) := by
  have unchanged : world.after (.handshake session) = world :=
    Relay.world_handshake session world
  exact .idle trivial (by rw [unchanged]) (by rw [unchanged])

end World

end Rendezvous
