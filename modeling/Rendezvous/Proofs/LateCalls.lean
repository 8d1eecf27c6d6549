/-
# Late calls are not noticed

A connection that was hung up is still heard of for a while: texts that were on their
way come in, and at last its end. Its session may long be in use again by then. All
such calls can be left out of a history, moved or added, and nobody else notices it,
neither in the results of calls nor in the sessions nor on any other wire. The same
holds of the end of a connection that is reported once more.
-/

import Rendezvous.Proofs.Alike
import Rendezvous.Proofs.Membership
import Rendezvous.Proofs.Unwinding

namespace Rendezvous

/-- The partner of a connection has ended, and the connection was hung up by that. -/
def HungUp (configuration : PeerConfiguration) (past : History) (connection : Connection) :
    Prop :=
  ∃ before after partner, past = before ++ .closed partner :: after ∧
    (worldAfter configuration before).Paired partner connection

namespace HookCall

/-- A text or the end of a connection. -/
def isFrom (connection : Connection) : HookCall → Bool
  | .message speaker _ | .closed speaker => speaker = connection
  | .handshake _ | .opened _ => false

/-- The end of a connection. -/
def isEndOf (connection : Connection) (call : HookCall) : Bool :=
  call = .closed connection

theorem eq_of_isFrom {connection : Connection} {call : HookCall}
    (late : call.isFrom connection = true) :
    (∃ text, call = .message connection text) ∨ call = .closed connection := by
  cases call with
  | handshake id => cases late
  | opened other => cases late
  | message speaker text =>
      left
      exact ⟨text, by rw [of_decide_eq_true late]⟩
  | closed speaker =>
      right
      rw [of_decide_eq_true late]

end HookCall

/-- Two worlds look alike but for the wire of one connection. -/
structure World.AlikeBut (id : ConnectionId) (left right : World Relay) : Prop where
  sessions : left.sessions = right.sessions
  wire : ∀ other, other ≠ id → left.wire other = right.wire other

/-- Two worlds have the same sessions and the same wires. -/
structure World.AlikeAll (left right : World Relay) : Prop where
  sessions : left.sessions = right.sessions
  wire : left.wire = right.wire

variable {configuration : PeerConfiguration} {past rest : History} {gone : Connection}

/-! ## A connection that is gone -/

/-- A connection was taken in, and it has ended or is hung up. -/
structure Gone (configuration : PeerConfiguration) (past : History) (connection : Connection) :
    Prop where
  joined : Joined configuration past connection
  finished : .closed connection ∈ past ∨
    ((worldAfter configuration past).wire connection.id).closing = true

namespace Gone

theorem append (away : Gone configuration past gone)
    (sound : (worldAfter configuration past).core.poisoned = false) (rest : History) :
    Gone configuration (past ++ rest) gone := by
  refine ⟨away.joined.append rest, ?_⟩
  rcases away.finished with ended | marked
  · exact .inl (List.mem_append_left rest ended)
  · right
    rw [worldAfter, World.afterAll_append]
    exact World.closing_afterAll sound rest marked

/-- Who is gone stands for no member of any session. -/
theorem ne_id_of_mem (away : Gone configuration past gone)
    (orderly : Orderly configuration past) :
    ∀ id, ∀ member ∈ ((worldAfter configuration past).session id).members,
      member.id ≠ gone.id := by
  have settled := orderly.settled
  apply settled.ne_id_of_not_member orderly away.joined.mem_connections
  intro member
  rcases away.finished with ended | marked
  · exact settled.not_closed_of_member member ended
  · rw [settled.unmarked_of_member member] at marked
    cases marked

/-- The others do not reach the wire of a connection that is gone. -/
theorem not_reaches (away : Gone configuration past gone) {call : HookCall}
    (orderly : Orderly configuration (past ++ call :: rest)) (other : call.isFrom gone = false) :
    ¬ call.Reaches (worldAfter configuration past) gone.id := by
  rintro (⟨connection, about, same⟩ | ⟨member, inside, same⟩)
  · have known := away.joined.mem_connections
    have promised := orderly.promised
    cases call with
    | handshake id => cases about
    | opened newcomer =>
        cases about
        exact promised gone known same.symm
    | message speaker text | closed speaker =>
        cases about
        obtain rfl := orderly.of_append.eq_of_id promised.1.mem_connections known same
        simp [HookCall.isFrom] at other
  · exact away.ne_id_of_mem orderly.of_append call.session member inside same

end Gone

/-- Being hung up lasts. -/
theorem HungUp.gone_and_closing (hungUp : HungUp configuration past gone)
    (orderly : Orderly configuration past) :
    Gone configuration past gone ∧
      ((worldAfter configuration past).wire gone.id).closing = true := by
  obtain ⟨before, after, partner, rfl, together⟩ := hungUp
  have settled := orderly.of_append.settled
  have joined := ((settled.member_iff gone).mp (together.symm.member settled.staged)).1
  have marked : ((worldAfter configuration (before ++ .closed partner :: after)).wire
      gone.id).closing = true := by
    rw [worldAfter, World.afterAll_append, World.afterAll_cons]
    apply World.closing_afterAll
    · rw [World.poisoned_after]
      exact settled.sound
    · have move := settled.moves orderly.of_append orderly.promised
      exact (move.closing_iff settled.staged gone.id).mpr
        (.inr ⟨partner, gone, rfl, together, rfl⟩)
  exact ⟨⟨joined.append _, .inr marked⟩, marked⟩

theorem Gone.of_ended (orderly : Orderly configuration past)
    (ended : .closed gone ∈ past) : Gone configuration past gone := by
  obtain ⟨before, after, rfl⟩ := List.append_of_mem ended
  exact ⟨orderly.promised.1.append _, .inl ended⟩

/-! ## What a late call does -/

/-- What a connection says while it is hung up reaches nobody else. -/
theorem World.after_message_of_closing {world : World Relay} {connection : Connection}
    (marked : (world.wire connection.id).closing = true) (text : Octets) :
    (world.after (.message connection text)).sessions = world.sessions ∧
      ∀ other, other ≠ connection.id →
        (world.after (.message connection text)).wire other = world.wire other := by
  have still {result : Except SignalingError Unit}
      (shown : (Relay.hooks.answer (.message connection text) world).Shows result
        world.sessions world.wire) :
      (world.after (.message connection text)).sessions = world.sessions ∧
        ∀ other, other ≠ connection.id →
          (world.after (.message connection text)).wire other = world.wire other :=
    ⟨shown.sessions, fun other _ => congrFun shown.wire other⟩
  cases parsed : Request.parse text with
  | error fault => exact still (Relay.message_of_fault connection parsed)
  | ok request =>
      cases request with
      | getConfiguration msgId =>
          have shown : (Relay.hooks.answer _ world).Shows _ _ _ :=
            Relay.message_of_getConfiguration connection parsed
          refine ⟨shown.sessions, fun other differs => ?_⟩
          exact (congrFun shown.wire other).trans (Function.update_of_ne differs _ _)
      | notify data => exact still (Relay.message_of_closing connection parsed marked)
      | unrecognized reason => exact still (Relay.message_of_unrecognized connection parsed)

/-- A late call of a connection that is hung up and no member is noticed by nobody. -/
theorem World.after_of_isFrom {world : World Relay} (sound : world.core.poisoned = false)
    (staged : world.Staged) (marked : (world.wire gone.id).closing = true)
    (stranger : ∀ member ∈ (world.session gone.session).members, member.id ≠ gone.id)
    {call : HookCall} (late : call.isFrom gone = true) :
    (world.after call).sessions = world.sessions ∧
      ∀ other, other ≠ gone.id → (world.after call).wire other = world.wire other := by
  rcases HookCall.eq_of_isFrom late with ⟨text, rfl⟩ | rfl
  · exact World.after_message_of_closing marked text
  · have shown := Relay.closed_of_stranger sound staged stranger
    exact ⟨shown.sessions, fun other _ => congrFun shown.wire other⟩

/-! ## Two runs, one of them orderly -/

/-- An orderly run, in which somebody is gone and some calls are still to come, beside
another run. -/
structure Beside (configuration : PeerConfiguration) (gone : Connection)
    (circle : ConnectionId → Prop) (future : History) (left right : World Relay) : Prop where
  alike : World.Alike (fun _ => True) circle left right
  course : ∃ past, left = worldAfter configuration past ∧
    Orderly configuration (past ++ future) ∧ Gone configuration past gone

namespace Beside

variable {circle : ConnectionId → Prop} {call : HookCall} {future : History}
  {left right : World Relay}

theorem sessions_eq (beside : Beside configuration gone circle future left right) :
    left.sessions = right.sessions := by
  funext id
  exact beside.alike.sessions id trivial

theorem course_after (beside : Beside configuration gone circle (call :: future) left right) :
    ∃ past, left.after call = worldAfter configuration past ∧
      Orderly configuration (past ++ future) ∧ Gone configuration past gone := by
  obtain ⟨past, rfl, orderly, away⟩ := beside.course
  refine ⟨past ++ [call], ?_, ?_, ?_⟩
  · exact (worldAfter_snoc configuration past call).symm
  · rwa [List.append_assoc]
  · exact away.append orderly.of_append.settled.sound [call]

/-- The members of a session, in either world, are others than the one who is gone. -/
theorem stranger (beside : Beside configuration gone circle future left right) :
    (∀ member ∈ (left.session gone.session).members, member.id ≠ gone.id) ∧
      ∀ member ∈ (right.session gone.session).members, member.id ≠ gone.id := by
  have same := World.session_congr (beside.alike.sessions gone.session trivial)
  obtain ⟨past, rfl, orderly, away⟩ := beside.course
  rw [← same]
  exact ⟨away.ne_id_of_mem orderly.of_append _, away.ne_id_of_mem orderly.of_append _⟩

theorem staged (beside : Beside configuration gone circle future left right) :
    left.Staged ∧ right.Staged := by
  have same := beside.sessions_eq
  obtain ⟨past, rfl, orderly, -⟩ := beside.course
  have staged := orderly.of_append.settled.staged
  refine ⟨staged, fun id => ?_⟩
  rw [← same]
  exact staged id

end Beside

/-- All that a connection is heard of after it was hung up is out of sight. -/
theorem unwinding_hungUp (configuration : PeerConfiguration) (gone : Connection) :
    Unwinding (fun call => !call.isFrom gone) (World.AlikeBut gone.id)
      fun future _ left right =>
        Beside configuration gone (· ≠ gone.id) future left right ∧
          (left.wire gone.id).closing = true ∧ (right.wire gone.id).closing = true where
  seen := fun ⟨beside, _⟩ => ⟨beside.sessions_eq, beside.alike.wire⟩
  left := by
    rintro call future future' left right ⟨beside, marked, marked'⟩ hidden
    have late : call.isFrom gone = true := by simpa using hidden
    obtain ⟨sessions, wire⟩ := World.after_of_isFrom beside.alike.sound beside.staged.1 marked
      beside.stranger.1 late
    refine ⟨⟨?_, beside.course_after⟩, ?_, marked'⟩
    · exact beside.alike.after_left (fun id _ => congrFun sessions id) wire
    · exact World.closing_after beside.alike.sound call marked
  right := by
    rintro call future future' left right ⟨beside, marked, marked'⟩ hidden
    have late : call.isFrom gone = true := by simpa using hidden
    obtain ⟨sessions, wire⟩ := World.after_of_isFrom beside.alike.sound' beside.staged.2 marked'
      beside.stranger.2 late
    refine ⟨⟨?_, beside.course⟩, marked, ?_⟩
    · exact (beside.alike.symm.after_left (fun id _ => congrFun sessions id) wire).symm
    · exact World.closing_after beside.alike.sound' call marked'
  both := by
    rintro call future future' left right ⟨beside, marked, marked'⟩ visible
    have other : call.isFrom gone = false := by simpa using visible
    have inside : ∀ id, call.Reaches left id → id ≠ gone.id := by
      obtain ⟨past, rfl, orderly, away⟩ := beside.course
      rintro id reaches rfl
      exact away.not_reaches orderly other reaches
    obtain ⟨result, alike⟩ := beside.alike.within trivial inside
    refine ⟨result, ⟨alike, beside.course_after⟩, ?_, ?_⟩
    · exact World.closing_after beside.alike.sound call marked
    · exact World.closing_after beside.alike.sound' call marked'

/-- The end of a connection that is gone is out of sight. -/
theorem unwinding_ended (configuration : PeerConfiguration) (gone : Connection) :
    Unwinding (fun call => !call.isEndOf gone) World.AlikeAll
      fun future _ left right =>
        Beside configuration gone (fun _ => True) future left right where
  seen beside := by
    refine ⟨beside.sessions_eq, ?_⟩
    funext id
    exact beside.alike.wire id trivial
  left := by
    intro call future future' left right beside hidden
    obtain rfl : call = .closed gone := by simpa [HookCall.isEndOf] using hidden
    have shown := Relay.closed_of_stranger beside.alike.sound beside.staged.1 beside.stranger.1
    refine ⟨?_, beside.course_after⟩
    exact beside.alike.after_left (fun id _ => congrFun shown.sessions id)
      fun id _ => congrFun shown.wire id
  right := by
    intro call future future' left right beside hidden
    obtain rfl : call = .closed gone := by simpa [HookCall.isEndOf] using hidden
    have shown := Relay.closed_of_stranger beside.alike.sound' beside.staged.2 beside.stranger.2
    refine ⟨?_, beside.course⟩
    exact (beside.alike.symm.after_left (fun id _ => congrFun shown.sessions id)
      fun id _ => congrFun shown.wire id).symm
  both := by
    intro call future future' left right beside visible
    obtain ⟨result, alike⟩ : World.AlikeAfter _ _ left right call :=
      beside.alike.within trivial fun _ _ => trivial
    exact ⟨result, alike, beside.course_after⟩

theorem Beside.refl {circle : ConnectionId → Prop} (away : Gone configuration past gone)
    (orderly : Orderly configuration (past ++ rest)) :
    Beside configuration gone circle rest (worldAfter configuration past)
      (worldAfter configuration past) := by
  have sound := orderly.of_append.settled.sound
  refine ⟨⟨rfl, sound, sound, ?_, ?_⟩, past, rfl, orderly, away⟩
  · intro id _
    rfl
  · intro id _
    rfl

/-- All calls of a connection after it was hung up, and all further ends of a connection
that has ended, may be left out and put in at will: two ways to go on, one of them
orderly, that differ in nothing else agree in everything else. -/
theorem late_calls_out_of_sight (orderly : Orderly configuration (past ++ rest))
    (gone : Connection) (rest' : History) :
    (HungUp configuration past gone →
      rest.filter (fun call => !call.isFrom gone) = rest'.filter (fun call => !call.isFrom gone) →
      AgreeInSight (fun call => !call.isFrom gone) (World.AlikeBut gone.id)
        (worldAfter configuration past) (worldAfter configuration past) rest rest') ∧
    (.closed gone ∈ past →
      rest.filter (fun call => !call.isEndOf gone) =
        rest'.filter (fun call => !call.isEndOf gone) →
      AgreeInSight (fun call => !call.isEndOf gone) World.AlikeAll
        (worldAfter configuration past) (worldAfter configuration past) rest rest') := by
  constructor
  · intro hungUp same
    obtain ⟨away, marked⟩ := hungUp.gone_and_closing orderly.of_append
    exact (unwinding_hungUp configuration gone).agree ⟨.refl away orderly, marked, marked⟩ same
  · intro ended same
    have away := Gone.of_ended orderly.of_append ended
    exact (unwinding_ended configuration gone).agree (.refl away orderly) same

/-- Other ways to go on after the first visitor of the room has left: the second speaks
more often and ends sooner, or the first ends twice more. -/
theorem late_calls_of_reunion :
    Orderly default (reunion.take 6 ++ reunion.drop 6) ∧
      HungUp default (reunion.take 6) (visitor 1 "room") ∧
      AgreeInSight (fun call => !call.isFrom (visitor 1 "room"))
        (World.AlikeBut (visitor 1 "room").id)
        (worldAfter default (reunion.take 6)) (worldAfter default (reunion.take 6))
        (reunion.drop 6)
        [.message (visitor 1 "room") (notice "4"), .closed (visitor 1 "room"),
          .opened (visitor 2 "room"), .message (visitor 1 "room") (.ofText "5")] ∧
      .closed (visitor 0 "room") ∈ reunion.take 6 ∧
      AgreeInSight (fun call => !call.isEndOf (visitor 0 "room")) World.AlikeAll
        (worldAfter default (reunion.take 6)) (worldAfter default (reunion.take 6))
        (reunion.drop 6)
        (.closed (visitor 0 "room") :: reunion.drop 6 ++ [.closed (visitor 0 "room")]) := by
  have orderly : Orderly default (reunion.take 6 ++ reunion.drop 6) := by
    rw [List.take_append_drop]
    exact orderly_reunion
  have together : (worldAfter default (reunion.take 5)).Paired
      (visitor 0 "room") (visitor 1 "room") :=
    ⟨by decide, ⟨"room"⟩, _, rfl, by decide, by decide⟩
  have hungUp : HungUp default (reunion.take 6) (visitor 1 "room") :=
    ⟨reunion.take 5, [], visitor 0 "room", rfl, together⟩
  have ended : .closed (visitor 0 "room") ∈ reunion.take 6 := by decide
  refine ⟨orderly, hungUp, ?_, ended, ?_⟩
  · exact (late_calls_out_of_sight orderly (visitor 1 "room") _).1 hungUp (by decide)
  · exact (late_calls_out_of_sight orderly (visitor 0 "room") _).2 ended (by decide)

end Rendezvous
