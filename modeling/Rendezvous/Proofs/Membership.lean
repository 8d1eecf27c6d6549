/-
# Membership along orderly histories

After every call of an orderly history the registry holds exactly the sessions that
have members, and the members of a session are exactly those of its connections that
were taken in, have not ended and are not hung up. `Settled` collects what is needed
for one step of the induction; `WellKept` says what follows for the registry.
-/

import Rendezvous.Proofs.Moves

namespace Rendezvous

open Function (update)

variable {configuration : PeerConfiguration}

/-- What holds after every orderly history, in the form in which it is preserved. -/
structure Settled (configuration : PeerConfiguration) (past : History) : Prop where
  sound : (worldAfter configuration past).core.poisoned = false
  attended : ∀ id, ((worldAfter configuration past).wire id).attended = true
  staged : (worldAfter configuration past).Staged
  member_iff : ∀ connection, (worldAfter configuration past).Member connection ↔
    Joined configuration past connection ∧ .closed connection ∉ past ∧
      ((worldAfter configuration past).wire connection.id).closing = false
  /-- Only a connection that has been heard of is ever marked. -/
  known_of_closing : ∀ id, ((worldAfter configuration past).wire id).closing = true →
    ∃ connection ∈ past.connections, connection.id = id
  /-- Members stand in the order in which they came. -/
  arrived : ∀ id session, (worldAfter configuration past).sessions id = some session →
    session.members.Sublist past.arrivals

namespace Settled

variable {past : History} {connection : Connection}

theorem joined_of_mem (settled : Settled configuration past) {id : SessionId}
    {session : Session} {member : Connection}
    (present : (worldAfter configuration past).sessions id = some session)
    (inside : member ∈ session.members) : Joined configuration past member := by
  have home : member.session = id := (settled.staged.stage_of_eq present).session_of_mem inside
  subst home
  exact ((settled.member_iff member).mp ⟨session, present, inside⟩).1

theorem unmarked_of_member (settled : Settled configuration past)
    (member : (worldAfter configuration past).Member connection) :
    ((worldAfter configuration past).wire connection.id).closing = false :=
  ((settled.member_iff connection).mp member).2.2

theorem not_closed_of_member (settled : Settled configuration past)
    (member : (worldAfter configuration past).Member connection) :
    .closed connection ∉ past :=
  ((settled.member_iff connection).mp member).2.1

theorem known_of_member (settled : Settled configuration past)
    (member : (worldAfter configuration past).Member connection) :
    connection ∈ past.connections :=
  ((settled.member_iff connection).mp member).1.mem_connections

/-! ## The move of each call -/

/-- A connection that is no member stands for none. -/
theorem ne_id_of_not_member (orderly : Orderly configuration past)
    (settled : Settled configuration past) (known : connection ∈ past.connections)
    (outside : ¬ (worldAfter configuration past).Member connection) :
    ∀ id, ∀ member ∈ ((worldAfter configuration past).session id).members,
      member.id ≠ connection.id := by
  intro id member inside same
  cases present : (worldAfter configuration past).sessions id with
  | none =>
      rw [World.session, present] at inside
      cases inside
  | some session =>
      rw [World.session_of_sessions present] at inside
      have heard := (settled.joined_of_mem present inside).mem_connections
      obtain rfl := orderly.eq_of_id heard known same
      obtain rfl := (settled.staged.stage_of_eq present).session_of_mem inside
      exact outside ⟨session, present, inside⟩

/-- Every call that the transport promised is one of the moves. -/
theorem moves (orderly : Orderly configuration past) (settled : Settled configuration past)
    {call : HookCall} (promised : Promised configuration past call) :
    (worldAfter configuration past).Moves call := by
  cases call with
  | handshake session => exact World.moves_handshake _ session
  | opened connection =>
      exact World.moves_opened settled.sound settled.staged (settled.attended _)
        fun member inside => promised member (settled.known_of_member inside)
  | message connection text =>
      refine World.moves_message settled.sound settled.staged (settled.attended _)
        (fun peer _ => settled.attended peer.id) (fun closing => ?_) text
      exact (settled.member_iff connection).mpr ⟨promised.1, promised.2, closing⟩
  | closed connection =>
      refine World.moves_closed settled.sound settled.staged fun outside => ?_
      exact settled.ne_id_of_not_member orderly promised.1.mem_connections outside _

end Settled

/-! ## Along a whole history -/

theorem settled_nil : Settled configuration [] where
  sound := rfl
  attended _ := rfl
  staged _ := .vacant
  member_iff connection := by
    constructor
    · rintro ⟨session, present, -⟩
      cases present
    · rintro ⟨joined, -⟩
      exact absurd joined (not_joined_nil connection)
  known_of_closing _ closing := by cases closing
  arrived _ _ present := by cases present

namespace Settled

variable {past : History} {call : HookCall}

/-- Being a member stays a matter of having been taken in, not having ended and not
being hung up. -/
theorem member_iff_after (orderly : Orderly configuration past)
    (settled : Settled configuration past) (promised : Promised configuration past call)
    (connection : Connection) :
    ((worldAfter configuration past).after call).Member connection ↔
      Joined configuration (past ++ [call]) connection ∧
        .closed connection ∉ past ++ [call] ∧
        (((worldAfter configuration past).after call).wire connection.id).closing = false := by
  have move := settled.moves orderly promised
  rw [move.member_iff settled.staged, settled.member_iff, joined_snoc_iff, List.mem_append,
    List.mem_singleton, ← Bool.not_eq_true, ← Bool.not_eq_true, move.closing_iff settled.staged]
  constructor
  · rintro (⟨⟨joined, remains, unmarked⟩, stays, alone⟩ | ⟨rfl, taken⟩)
    · refine ⟨.inl joined, fun ended => ended.elim remains (stays ·.symm), ?_⟩
      rintro (marked | ⟨leaver, peer, ended, together, same⟩)
      · exact unmarked marked
      · obtain rfl := orderly.eq_of_id
          (settled.known_of_member (together.symm.member settled.staged))
          joined.mem_connections same
        exact alone leaver ended together
    · have new : connection ∉ past.connections := fun listed =>
        promised connection listed rfl
      refine ⟨.inr ⟨rfl, taken⟩, ?_, ?_⟩
      · rintro (ended | ended)
        · exact new (History.mem_connections_of_mem ended rfl)
        · cases ended
      · rintro (marked | ⟨leaver, peer, ended, -⟩)
        · obtain ⟨earlier, listed, same⟩ := settled.known_of_closing _ marked
          exact promised earlier listed same
        · cases ended
  · rintro ⟨joined | opening, remains, unmarked⟩
    · refine .inl ⟨⟨joined, fun ended => remains (.inl ended), fun marked =>
        unmarked (.inl marked)⟩, fun ended => remains (.inr ended.symm), ?_⟩
      exact fun leaver ended together =>
        unmarked (.inr ⟨leaver, connection, ended, together, rfl⟩)
    · exact .inr opening

theorem snoc (orderly : Orderly configuration past) (settled : Settled configuration past)
    (promised : Promised configuration past call) :
    Settled configuration (past ++ [call]) := by
  have move := settled.moves orderly promised
  constructor
  case sound =>
    rw [worldAfter_snoc, World.poisoned_after]
    exact settled.sound
  case attended =>
    intro id
    rw [worldAfter_snoc, move.attended]
    exact settled.attended id
  case staged =>
    rw [worldAfter_snoc]
    exact move.staged settled.staged
  case member_iff =>
    rw [worldAfter_snoc]
    exact settled.member_iff_after orderly promised
  case known_of_closing =>
    intro id closing
    rw [worldAfter_snoc, move.closing_iff settled.staged] at closing
    rw [History.connections_append]
    rcases closing with closing | ⟨leaver, peer, -, together, rfl⟩
    · obtain ⟨connection, listed, same⟩ := settled.known_of_closing id closing
      exact ⟨connection, List.mem_append_left _ listed, same⟩
    · have listed := settled.known_of_member (together.symm.member settled.staged)
      exact ⟨peer, List.mem_append_left _ listed, rfl⟩
  case arrived =>
    intro id session present
    rw [worldAfter_snoc] at present
    rw [History.arrivals_append]
    exact move.arrived settled.arrived present

end Settled

theorem Orderly.settled {history : History} (orderly : Orderly configuration history) :
    Settled configuration history := by
  induction orderly with
  | nil => exact settled_nil
  | snoc before promised ih => exact ih.snoc before promised

/-! ## The registry -/

/-- The registry as it is between any two calls of an orderly history. -/
structure WellKept (configuration : PeerConfiguration) (past : History) : Prop where
  /-- A session exists as long as it has members. -/
  exists_iff : ∀ id, ((worldAfter configuration past).sessions id).isSome = true ↔
    ∃ connection, connection.session = id ∧ (worldAfter configuration past).Member connection
  named : ∀ id session, (worldAfter configuration past).sessions id = some session →
    session.id = id
  one_or_two : ∀ id session, (worldAfter configuration past).sessions id = some session →
    session.members.length = 1 ∨ session.members.length = 2
  /-- The members of a session have different identifiers. -/
  distinct : ∀ id session, (worldAfter configuration past).sessions id = some session →
    (session.members.map Connection.id).Nodup
  /-- The members of a session stand in the order of their openings. -/
  in_order : ∀ id session, (worldAfter configuration past).sessions id = some session →
    session.members.Sublist past.arrivals
  at_home : ∀ id session, (worldAfter configuration past).sessions id = some session →
    ∀ member ∈ session.members, member.session = id
  /-- A member is who was taken in, has not ended and is not hung up. -/
  member_iff : ∀ connection, (worldAfter configuration past).Member connection ↔
    Joined configuration past connection ∧ .closed connection ∉ past ∧
      (worldAfter configuration past).wires.isClosing connection.id = false
  /-- Nothing waits where two have met. -/
  pending_of_two : ∀ id session, (worldAfter configuration past).sessions id = some session →
    session.members.length = 2 → session.pending = []
  /-- What waits was said by the one who waits. -/
  sender_of_one : ∀ id session, (worldAfter configuration past).sessions id = some session →
    ∀ member, session.members = [member] →
      ∀ entry ∈ session.pending, entry.sender = member.id

/-- Before, between and after the calls of an orderly history the registry is well
kept. -/
theorem wellKept_of_prefix {history : History} (orderly : Orderly configuration history)
    {past : History} (earlier : past <+: history) : WellKept configuration past := by
  have settled := (orderly.of_prefix earlier).settled
  constructor
  case exists_iff =>
    intro id
    constructor
    · intro known
      obtain ⟨session, present⟩ := Option.isSome_iff_exists.mp known
      have stage := settled.staged.stage_of_eq present
      obtain ⟨member, inside⟩ := stage.exists_mem
      obtain rfl := stage.session_of_mem inside
      exact ⟨member, rfl, session, present, inside⟩
    · rintro ⟨connection, rfl, session, present, -⟩
      rw [present]
      rfl
  case named =>
    intro id session present
    exact (settled.staged.stage_of_eq present).id_eq
  case one_or_two =>
    intro id session present
    cases settled.staged.stage_of_eq present with
    | lone home => exact .inl rfl
    | pair home home' differ => exact .inr rfl
  case distinct =>
    intro id session present
    cases settled.staged.stage_of_eq present with
    | lone home => simp
    | pair home home' differ => simpa using differ
  case in_order => exact settled.arrived
  case at_home =>
    intro id session present member inside
    exact (settled.staged.stage_of_eq present).session_of_mem inside
  case member_iff => exact settled.member_iff
  case pending_of_two =>
    intro id session present two
    cases settled.staged.stage_of_eq present with
    | lone home => cases two
    | pair home home' differ => rfl
  case sender_of_one =>
    intro id session present member only entry waiting
    cases settled.staged.stage_of_eq present with
    | lone home =>
        obtain ⟨data, -, rfl⟩ := List.mem_map.mp waiting
        exact congrArg Connection.id (List.singleton_inj.mp only)
    | pair home home' differ => cases only

/-- Also while the second visitor of a room is there. -/
theorem wellKept_reunion : Orderly default reunion ∧ reunion.take 4 <+: reunion ∧
    WellKept default (reunion.take 4) := by
  have earlier : reunion.take 4 <+: reunion := List.take_prefix 4 reunion
  exact ⟨orderly_reunion, earlier, wellKept_of_prefix orderly_reunion earlier⟩

end Rendezvous
