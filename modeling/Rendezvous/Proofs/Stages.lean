/-
# The stages of a session

As long as the transport keeps its promise, a session is in one of three stages: it
does not exist, or one member waits in it with what it has said so far, or two
members have met in it and nothing waits. This module says what each stage looks
like, to the operations on sessions and from the side of the members.
-/

import Rendezvous.Proofs.Contract

namespace Rendezvous

open Function (update)

namespace Session

/-- A session in which one member waits, with what it has said so far. -/
def lone (member : Connection) (said : List Payload) : Session :=
  ⟨member.session, [member], said.map (PendingEntry.mk member.id)⟩

/-- A session in which two members have met. -/
def pair (first second : Connection) : Session :=
  ⟨first.session, [first, second], []⟩

section

variable {first second other : Connection} {said : List Payload}

@[simp] theorem members_lone : (lone first said).members = [first] := rfl

@[simp] theorem members_pair : (pair first second).members = [first, second] := rfl

@[simp] theorem waiting_new (id : SessionId) : (new id).waiting = [] := rfl

@[simp] theorem waiting_lone : (lone first said).waiting = said := by
  simp [waiting, lone, Function.comp_def]

theorem lone_ne_pair {member : Connection} : lone member said ≠ pair first second := by
  intro same
  have members := congrArg Session.members same
  simp at members

theorem lone_inj {member : Connection} {words : List Payload}
    (same : lone first said = lone member words) : first = member ∧ said = words := by
  have members := congrArg Session.members same
  have waiting := congrArg Session.waiting same
  exact ⟨by simpa using members, by simpa using waiting⟩

theorem pair_inj {left right : Connection} (same : pair first second = pair left right) :
    first = left ∧ second = right := by
  have members := congrArg Session.members same
  simpa using members

theorem welcoming_new (first : Connection) :
    (new first.session).welcoming first = lone first [] := rfl

theorem welcoming_lone (first second : Connection) (said : List Payload) :
    (lone first said).welcoming second = pair first second := rfl

theorem enqueue_lone (first : Connection) (said : List Payload) (data : Payload) :
    (lone first said).enqueue first.id data = lone first (said ++ [data]) := by
  simp [enqueue, lone]

theorem otherMember_lone (first : Connection) (said : List Payload) :
    (lone first said).otherMember first.id = none := by
  simp [otherMember]

theorem otherMember_pair_left (differ : first.id ≠ second.id) :
    (pair first second).otherMember first.id = some second := by
  simp [otherMember, differ.symm]

theorem otherMember_pair_right (differ : first.id ≠ second.id) :
    (pair first second).otherMember second.id = some first := by
  simp [otherMember, differ]

theorem partner?_lone (first : Connection) (said : List Payload) :
    (lone first said).partner? first.id = none := by
  simp [partner?, otherMember_lone]

theorem partner?_pair_left (differ : first.id ≠ second.id) :
    (pair first second).partner? first.id = some second := by
  simp [partner?, contains, otherMember_pair_left differ]

theorem partner?_pair_right (differ : first.id ≠ second.id) :
    (pair first second).partner? second.id = some first := by
  simp [partner?, contains, otherMember_pair_right differ]

/-- Nothing remains of a session after its only member has left. -/
theorem remains_without_lone (first : Connection) (said : List Payload) :
    ((lone first said).without first.id).remains = none := by
  simp [without, partner?_lone, detach, remains, isEmpty]

/-- Nothing remains of a session after one of its two members has left. -/
theorem remains_without_pair_left (differ : first.id ≠ second.id) :
    ((pair first second).without first.id).remains = none := by
  simp [without, partner?_pair_left differ, detach, remains, isEmpty]

theorem remains_without_pair_right (differ : first.id ≠ second.id) :
    ((pair first second).without second.id).remains = none := by
  simp [without, partner?_pair_right differ, detach, remains, isEmpty, differ]

end

end Session

/-- The stages of the session of an identifier. -/
inductive Stage (id : SessionId) : Option Session → Prop
  /-- Nobody is there. -/
  | vacant : Stage id none
  /-- One member waits for the other. -/
  | lone {member : Connection} {said : List Payload} (home : member.session = id) :
    Stage id (some (.lone member said))
  /-- Two members have met. -/
  | pair {first second : Connection} (home : first.session = id)
    (home' : second.session = id) (differ : first.id ≠ second.id) :
    Stage id (some (.pair first second))

namespace Stage

variable {id : SessionId} {session : Session}

theorem id_eq (stage : Stage id (some session)) : session.id = id := by
  cases stage with
  | lone home => exact home
  | pair home home' differ => exact home

theorem session_of_mem (stage : Stage id (some session)) {member : Connection}
    (inside : member ∈ session.members) : member.session = id := by
  cases stage with
  | lone home =>
      rw [List.mem_singleton.mp inside]
      exact home
  | @pair first second home home' differ =>
      have either : member = first ∨ member = second := by simpa using inside
      rcases either with rfl | rfl
      · exact home
      · exact home'

theorem exists_mem (stage : Stage id (some session)) : ∃ member, member ∈ session.members := by
  cases stage with
  | @lone member said home => exact ⟨member, by simp⟩
  | @pair first second home home' differ => exact ⟨first, by simp⟩

theorem ne_id_of_pair {first second : Connection}
    (stage : Stage id (some (.pair first second))) : first.id ≠ second.id := by
  generalize same : some (Session.pair first second) = stored at stage
  cases stage with
  | vacant => cases same
  | lone home => exact absurd (Option.some.inj same).symm Session.lone_ne_pair
  | pair home home' differ =>
      obtain ⟨rfl, rfl⟩ := Session.pair_inj (Option.some.inj same)
      exact differ

/-- The leaving of somebody who is not there changes nothing. -/
theorem without_of_absent (stage : Stage id (some session)) {absent : ConnectionId}
    (missing : ∀ member ∈ session.members, member.id ≠ absent) :
    session.partner? absent = none ∧ (session.without absent).remains = some session := by
  have alone : session.partner? absent = none := by
    have unknown : session.contains absent = false := by
      simpa [Session.contains] using missing
    simp [Session.partner?, unknown]
  refine ⟨alone, ?_⟩
  have kept : session.detach absent = session := by
    cases stage with
    | @lone member said home =>
        have differs : member.id ≠ absent := missing member (List.mem_singleton.mpr rfl)
        simp [Session.detach, Session.lone, differs]
    | @pair first second home home' differ =>
        have left : first.id ≠ absent := missing first (by simp)
        have right : second.id ≠ absent := missing second (by simp)
        simp [Session.detach, Session.pair, left, right]
  rw [Session.without, alone, Option.elim_none, kept]
  cases stage <;> rfl

end Stage

namespace World

/-- A connection is a member of the session that it belongs to. -/
def Member (world : World Relay) (connection : Connection) : Prop :=
  ∃ session, world.sessions connection.session = some session ∧
    connection ∈ session.members

/-- Two different connections are members of one session. -/
def Paired (world : World Relay) (first second : Connection) : Prop :=
  first ≠ second ∧ ∃ id session, world.sessions id = some session ∧
    first ∈ session.members ∧ second ∈ session.members

/-- Every session is in one of the stages. -/
def Staged (world : World Relay) : Prop :=
  ∀ id, Stage id (world.sessions id)

variable {world before after : World Relay} {first second : Connection}

theorem Paired.symm (together : world.Paired first second) : world.Paired second first := by
  obtain ⟨differ, id, session, present, one, two⟩ := together
  exact ⟨differ.symm, id, session, present, two, one⟩

/-- Two of whom one comes to the other are paired. -/
theorem paired_of_update (differ : first.id ≠ second.id)
    (met : after.sessions = update before.sessions second.session (some (.pair first second))) :
    after.Paired first second := by
  refine ⟨fun equal => differ (congrArg Connection.id equal), second.session, ?_⟩
  refine ⟨.pair first second, ?_, by simp, by simp⟩
  rw [met, Function.update_self]

theorem Staged.stage_of_eq (staged : world.Staged) {id : SessionId} {stored : Option Session}
    (present : world.sessions id = stored) : Stage id stored :=
  present ▸ staged id

/-- Two that are paired are all that is in their session. -/
theorem Paired.sessions_eq (together : world.Paired first second) (staged : world.Staged) :
    second.session = first.session ∧
      (world.sessions first.session = some (.pair first second) ∨
        world.sessions first.session = some (.pair second first)) := by
  obtain ⟨differ, id, session, present, one, two⟩ := together
  have stage := staged.stage_of_eq present
  obtain rfl := stage.session_of_mem one
  refine ⟨stage.session_of_mem two, ?_⟩
  rw [present]
  cases stage with
  | lone home =>
      exact absurd ((List.mem_singleton.mp one).trans (List.mem_singleton.mp two).symm) differ
  | @pair left right home home' apart =>
      have one : first = left ∨ first = right := by simpa using one
      have two : second = left ∨ second = right := by simpa using two
      rcases one with rfl | rfl <;> rcases two with rfl | rfl
      · exact absurd rfl differ
      · exact .inl rfl
      · exact .inr rfl
      · exact absurd rfl differ

theorem Paired.member (together : world.Paired first second) (staged : world.Staged) :
    world.Member first := by
  rcases (together.sessions_eq staged).2 with present | present
  · exact ⟨_, present, by simp⟩
  · exact ⟨_, present, by simp⟩

/-- What the session of two that are paired is to one of them: the other is the one who
hears it and leaves with it, and nothing remains then. -/
theorem Paired.exists_session (together : world.Paired first second) (staged : world.Staged) :
    ∃ session, world.sessions first.session = some session ∧
      session.otherMember first.id = some second ∧
      session.partner? first.id = some second ∧
      (session.without first.id).remains = none := by
  obtain ⟨-, present | present⟩ := together.sessions_eq staged
  · have differ := (staged.stage_of_eq present).ne_id_of_pair
    exact ⟨_, present, Session.otherMember_pair_left differ,
      Session.partner?_pair_left differ, Session.remains_without_pair_left differ⟩
  · have differ := (staged.stage_of_eq present).ne_id_of_pair
    exact ⟨_, present, Session.otherMember_pair_right differ,
      Session.partner?_pair_right differ, Session.remains_without_pair_right differ⟩

/-- A member waits alone, or it is paired. -/
theorem Member.lone_or_paired {connection : Connection} (member : world.Member connection)
    (staged : world.Staged) :
    (∃ said, world.sessions connection.session = some (.lone connection said)) ∨
      ∃ peer, world.Paired connection peer := by
  obtain ⟨session, present, inside⟩ := member
  cases staged.stage_of_eq present with
  | @lone member said home =>
      obtain rfl := List.mem_singleton.mp inside
      exact .inl ⟨said, present⟩
  | @pair left right home home' differ =>
      right
      have apart : left ≠ right := fun same => differ (congrArg Connection.id same)
      have either : connection = left ∨ connection = right := by simpa using inside
      rcases either with rfl | rfl
      · exact ⟨right, apart, _, _, present, by simp, by simp⟩
      · exact ⟨left, apart.symm, _, _, present, by simp, by simp⟩

theorem Paired.mem_iff (together : world.Paired first second) (staged : world.Staged)
    {connection : Connection} (near : connection.session = first.session) :
    world.Member connection ↔ connection = first ∨ connection = second := by
  unfold Member
  rw [near]
  rcases (together.sessions_eq staged).2 with present | present
  · simp [present]
  · simp [present, or_comm]

theorem member_of_lone {said : List Payload} {connection : Connection}
    (waiting : world.sessions first.session = some (.lone first said))
    (near : connection.session = first.session) :
    world.Member connection ↔ connection = first := by
  unfold Member
  rw [near]
  simp [waiting]

theorem not_paired_of_lone {said : List Payload}
    (waiting : world.sessions first.session = some (.lone first said))
    (staged : world.Staged) : ¬ world.Paired first second := by
  intro together
  have other := (together.sessions_eq staged).1
  have inside := together.symm.member staged
  exact together.1 ((member_of_lone waiting other).mp inside).symm

/-- Nobody is paired with two. -/
theorem Paired.eq_of_paired {third : Connection} (together : world.Paired first second)
    (again : world.Paired first third) (staged : world.Staged) : second = third := by
  have inside := again.symm.member staged
  have near := (again.sessions_eq staged).1
  rcases (together.mem_iff staged near).mp inside with same | same
  · exact absurd same.symm again.1
  · exact same.symm

/-- What is found after a change at one identifier is what was put there, or it was
there before. -/
theorem stored_of_update {id key : SessionId} {stored found : Option Session}
    (changed : after.sessions = update before.sessions id stored)
    (present : after.sessions key = found) :
    key = id ∧ stored = found ∨ key ≠ id ∧ before.sessions key = found := by
  by_cases same : key = id
  · subst same
    rw [changed, Function.update_self] at present
    exact .inl ⟨rfl, present⟩
  · rw [changed, Function.update_of_ne same] at present
    exact .inr ⟨same, present⟩

/-- A change at one identifier concerns the connections of that session alone. -/
theorem member_of_update {id : SessionId} {stored : Option Session} {connection : Connection}
    (changed : after.sessions = update before.sessions id stored) :
    after.Member connection ↔
      if connection.session = id then
        ∃ session, stored = some session ∧ connection ∈ session.members
      else before.Member connection := by
  unfold Member
  rw [changed, Function.update_apply]
  split <;> rfl

theorem member_congr {connection : Connection} (same : after.sessions = before.sessions) :
    after.Member connection ↔ before.Member connection := by
  unfold Member
  rw [same]

end World

/-- The end of a connection that is no member is not noticed. -/
theorem Relay.closed_of_stranger {world : World Relay} (sound : world.core.poisoned = false)
    (staged : world.Staged) {connection : Connection}
    (stranger : ∀ member ∈ (world.session connection.session).members,
      member.id ≠ connection.id) :
    (hooks.answer (.closed connection) world).Shows (.ok ()) world.sessions world.wire := by
  cases present : world.sessions connection.session with
  | none => exact closed_of_absent connection sound present
  | some session =>
      rw [World.session_of_sessions present] at stranger
      have stage := staged.stage_of_eq present
      obtain ⟨alone, remains⟩ := stage.without_of_absent stranger
      have shown := closed_of_present connection sound present
      rwa [alone, Option.elim_none, remains, ← present, Function.update_eq_self] at shown

end Rendezvous
