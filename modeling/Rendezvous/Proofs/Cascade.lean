/-
# Who is hung up

When one of two that are paired ends, the other is marked for closing, both are out and
their session is gone; everybody else is left alone. Nothing else ever marks a connection
or takes a member out that has not ended itself, and no mark is taken back. So a connection
is marked exactly if its partner ended while the two were paired.
-/

import Rendezvous.Proofs.Pairing

namespace Rendezvous

variable {configuration : PeerConfiguration} {past history : History} {call : HookCall}

/-- Where two were paired nothing is left after the end of one of them. -/
theorem Move.removed {before after : World Relay} {leaver peer : Connection}
    {result : Except SignalingError Unit} (move : Move before after (.closed leaver) result)
    (staged : before.Staged) (together : before.Paired leaver peer) :
    after.sessions leaver.session = none := by
  cases move with
  | idle outside _ _ => exact absurd (together.member staged) outside
  | left waiting _ _ => exact absurd together (World.not_paired_of_lone waiting staged)
  | parted _ sessions _ => rw [sessions, Function.update_self]

namespace World

/-- A call marks nobody and takes nobody in or out but the connection that it is about. -/
structure Spares (world : World Relay) (call : HookCall) : Prop where
  closing : ∀ id, (world.after call).wires.isClosing id = world.wires.isClosing id
  member_iff : ∀ connection, call.connection? ≠ some connection →
    ((world.after call).Member connection ↔ world.Member connection)

/-- The end of one of two that are paired hangs up the other and nobody else, and leaves
nothing of their session. -/
structure Dissolves (world : World Relay) (leaver peer : Connection) : Prop where
  leaver_out : ¬ (world.after (.closed leaver)).Member leaver
  peer_out : ¬ (world.after (.closed leaver)).Member peer
  removed : (world.after (.closed leaver)).sessions leaver.session = none
  /-- It is this call that marks the other. -/
  unmarked_before : world.wires.isClosing peer.id = false
  marked_after : (world.after (.closed leaver)).wires.isClosing peer.id = true
  closing_of_ne : ∀ id, id ≠ peer.id →
    (world.after (.closed leaver)).wires.isClosing id = world.wires.isClosing id
  member_iff : ∀ connection, connection ≠ leaver → connection ≠ peer →
    ((world.after (.closed leaver)).Member connection ↔ world.Member connection)

variable {world : World Relay} {leaver peer : Connection}

/-- A call that is no end of one of two that are paired spares everybody. -/
theorem Moves.spares (moves : world.Moves call) (staged : world.Staged)
    (apart : ∀ leaver peer, call = .closed leaver → ¬ world.Paired leaver peer) :
    world.Spares call where
  closing id := by
    rw [Bool.eq_iff_iff]
    refine (moves.closing_iff staged id).trans ⟨?_, .inl⟩
    rintro (marked | ⟨leaver, peer, ends, together, -⟩)
    · exact marked
    · exact absurd together (apart leaver peer ends)
  member_iff connection other := by
    rw [moves.member_iff staged]
    constructor
    · rintro (⟨member, -⟩ | ⟨rfl, -⟩)
      · exact member
      · exact absurd rfl other
    · intro member
      refine .inl ⟨member, ?_, fun leaver ends => apart leaver connection ends⟩
      rintro rfl
      exact other rfl

theorem Moves.dissolves (moves : world.Moves (.closed leaver)) (staged : world.Staged)
    (unmarked : world.wires.isClosing peer.id = false) (together : world.Paired leaver peer) :
    world.Dissolves leaver peer where
  leaver_out member := by
    rw [moves.member_iff staged] at member
    rcases member with ⟨-, stays, -⟩ | ⟨opens, -⟩
    · exact stays rfl
    · cases opens
  peer_out member := by
    rw [moves.member_iff staged] at member
    rcases member with ⟨-, -, alone⟩ | ⟨opens, -⟩
    · exact alone leaver rfl together
    · cases opens
  removed := moves.removed staged together
  unmarked_before := unmarked
  marked_after := (moves.closing_iff staged peer.id).mpr (.inr ⟨leaver, peer, rfl, together, rfl⟩)
  closing_of_ne id other := by
    rw [Bool.eq_iff_iff]
    refine (moves.closing_iff staged id).trans ⟨?_, .inl⟩
    rintro (marked | ⟨leaver', peer', ends, together', rfl⟩)
    · exact marked
    · cases ends
      obtain rfl := together.eq_of_paired together' staged
      exact absurd rfl other
  member_iff connection differs differs' := by
    rw [moves.member_iff staged]
    constructor
    · rintro (⟨member, -⟩ | ⟨opens, -⟩)
      · exact member
      · cases opens
    · intro member
      refine .inl ⟨member, ?_, ?_⟩
      · intro ends
        exact differs (HookCall.closed.inj ends).symm
      · intro leaver' ends together'
        cases ends
        exact differs' (together.eq_of_paired together' staged).symm

end World

/-! ## Along orderly histories -/

/-- The end of a connection that has been heard of and is no member spares everybody, also
if the connection was turned away and its end was never promised. -/
theorem Settled.spares_closed (settled : Settled configuration past)
    (orderly : Orderly configuration past) {connection : Connection}
    (known : connection ∈ past.connections)
    (outside : ¬ (worldAfter configuration past).Member connection) :
    (worldAfter configuration past).Spares (.closed connection) := by
  have stranger := settled.ne_id_of_not_member orderly known outside
  have shown := Relay.closed_of_stranger settled.sound settled.staged
    (stranger connection.session)
  constructor
  case closing =>
    intro id
    exact congrArg Wire.closing (congrFun shown.wire id)
  case member_iff =>
    intro other _
    exact World.member_congr shown.sessions

/-- A connection is marked if and only if its partner has ended while they were paired. -/
theorem Orderly.closing_iff (orderly : Orderly configuration history) (id : ConnectionId) :
    (worldAfter configuration history).wires.isClosing id = true ↔
      ∃ past leaver peer, past ++ [.closed leaver] <+: history ∧
        (worldAfter configuration past).Paired leaver peer ∧ peer.id = id := by
  induction orderly with
  | nil =>
      constructor
      · intro marked
        cases marked
      · rintro ⟨past, leaver, peer, earlier, -⟩
        simp at earlier
  | @snoc past call before promised ih =>
      have settled := before.settled
      have move := settled.moves before promised
      rw [worldAfter_snoc]
      refine (move.closing_iff settled.staged id).trans ((or_congr_left ih).trans ?_)
      constructor
      · rintro (⟨earlier, leaver, peer, found, together⟩ | ⟨leaver, peer, rfl, together⟩)
        · exact ⟨earlier, leaver, peer, found.trans (List.prefix_append past [call]), together⟩
        · exact ⟨past, leaver, peer, List.prefix_rfl, together⟩
      · rintro ⟨earlier, leaver, peer, found, together⟩
        rcases List.prefix_concat_iff.mp found with same | found
        · obtain ⟨rfl, ends⟩ := List.append_inj' same rfl
          exact .inr ⟨leaver, peer, (List.singleton_inj.mp ends).symm, together⟩
        · exact .inl ⟨earlier, leaver, peer, found, together⟩

/-- Connections are hung up by the end of their partner and in no other way. -/
structure HungUpByPartner (configuration : PeerConfiguration) (history : History) : Prop where
  closing_iff : ∀ connection ∈ history.connections,
    ((worldAfter configuration history).wires.isClosing connection.id = true ↔
      ∃ past leaver, past ++ [.closed leaver] <+: history ∧
        (worldAfter configuration past).Paired leaver connection)
  /-- The end of one of two does all at once. -/
  dissolves : ∀ (past : History) leaver peer, past ++ [.closed leaver] <+: history →
    (worldAfter configuration past).Paired leaver peer →
      (worldAfter configuration past).Dissolves leaver peer
  /-- No other call marks anybody: none that the transport promises, at any point of the
  history, and no end of a connection that was turned away. -/
  spares : ∀ (past : History) call, past <+: history →
    (Promised configuration past call ∨ ∃ connection ∈ past.connections,
      call = .closed connection) →
    (∀ leaver peer, call = .closed leaver → ¬ (worldAfter configuration past).Paired leaver peer) →
      (worldAfter configuration past).Spares call
  /-- Marks are not taken back. -/
  kept : ∀ past later, past <+: later → later <+: history → ∀ id,
    (worldAfter configuration past).wires.isClosing id = true →
      (worldAfter configuration later).wires.isClosing id = true

/-- Whatever a transport that keeps its promise does, connections are hung up by the end
of their partner and in no other way. -/
theorem hungUpByPartner_of_orderly (orderly : Orderly configuration history) :
    HungUpByPartner configuration history := by
  constructor
  case closing_iff =>
    intro connection known
    rw [orderly.closing_iff]
    constructor
    · rintro ⟨past, leaver, peer, found, together, same⟩
      have settled := (orderly.of_prefix found).of_append.settled
      have listed := settled.known_of_member (together.symm.member settled.staged)
      have later : past <+: history := (List.prefix_append past _).trans found
      obtain rfl := orderly.eq_of_id (later.sublist.filterMap _ |>.subset listed) known same
      exact ⟨past, leaver, found, together⟩
    · rintro ⟨past, leaver, found, together⟩
      exact ⟨past, leaver, connection, found, together, rfl⟩
  case dissolves =>
    intro past leaver peer found together
    obtain ⟨before, promised⟩ := orderly_snoc_iff.mp (orderly.of_prefix found)
    have settled := before.settled
    have unmarked := settled.unmarked_of_member (together.symm.member settled.staged)
    exact (settled.moves before promised).dissolves settled.staged unmarked together
  case spares =>
    intro past call found allowed apart
    have before := orderly.of_prefix found
    have settled := before.settled
    rcases allowed with promised | ⟨connection, known, rfl⟩
    · exact (settled.moves before promised).spares settled.staged apart
    · by_cases member : (worldAfter configuration past).Member connection
      · have move := World.moves_closed_of_member settled.sound settled.staged member
        exact move.spares settled.staged apart
      · exact settled.spares_closed before known member
  case kept =>
    rintro past later ⟨rest, rfl⟩ found id marked
    rw [(orderly.of_prefix found).of_append.closing_iff] at marked
    rw [(orderly.of_prefix found).closing_iff]
    obtain ⟨earlier, leaver, peer, before, together⟩ := marked
    exact ⟨earlier, leaver, peer, before.trans (List.prefix_append past rest), together⟩

/-- A third visitor comes too early to a room and a fourth one late enough. -/
def crowd : History :=
  [.opened (visitor 0 "room"), .opened (visitor 1 "room"), .opened (visitor 2 "room"),
    .closed (visitor 1 "room"), .opened (visitor 3 "room"), .closed (visitor 0 "room")]

/-- The first visitor of the room is hung up by the end of the second. The end of the
third, who was turned away, would be noticed by neither, and the fourth is not hung up by
the late end of the first. -/
theorem hungUpByPartner_crowd : Orderly default crowd ∧ HungUpByPartner default crowd ∧
    (worldAfter default (crowd.take 3)).Paired (visitor 1 "room") (visitor 0 "room") ∧
    (worldAfter default (crowd.take 3)).Spares (.closed (visitor 2 "room")) ∧
    (worldAfter default (crowd.take 3)).Dissolves (visitor 1 "room") (visitor 0 "room") ∧
    (worldAfter default crowd).wires.isClosing (visitor 0 "room").id = true ∧
    (worldAfter default crowd).wires.isClosing (visitor 3 "room").id = false := by
  have orderly : Orderly default crowd := by decide
  have settled := (orderly.of_prefix (List.take_prefix 3 crowd)).settled
  have hangsUp := hungUpByPartner_of_orderly orderly
  have together : (worldAfter default (crowd.take 3)).Paired
      (visitor 1 "room") (visitor 0 "room") :=
    ⟨by decide, ⟨"room"⟩, _, rfl, by decide, by decide⟩
  have outside : ¬ (worldAfter default (crowd.take 3)).Member (visitor 2 "room") := by
    rw [settled.member_iff]
    decide
  refine ⟨orderly, hangsUp, together, ?_, ?_, by decide, by decide⟩
  · apply hangsUp.spares (crowd.take 3) _ (List.take_prefix 3 crowd)
    · exact .inr ⟨visitor 2 "room", by decide, rfl⟩
    · intro leaver peer ends paired
      cases ends
      exact outside (paired.member settled.staged)
  · exact hangsUp.dissolves (crowd.take 3) _ _ (List.take_prefix 4 crowd) together

end Rendezvous
