/-
# Every notice is accounted for

Whatever happens to a relay, in whatever order, a ledger can be kept beside it that
agrees with what waits in the sessions and with what was put on the wires. What carries
the induction is a fact about waiting: entries wait beside no member but their sender,
because whoever comes in takes them all.
-/

import Rendezvous.Proofs.Alike
import Rendezvous.Proofs.Ledger

namespace Rendezvous

open Function (update)

namespace Session

theorem pending_without (session : Session) (id : ConnectionId) :
    (session.without id).pending.Sublist session.pending := by
  unfold without
  cases session.partner? id with
  | none => exact List.filter_sublist
  | some other => exact List.filter_sublist.trans List.filter_sublist

/-- What is found of a session when a connection has left it. -/
def afterLeaving (session : Session) (id : ConnectionId) (key : SessionId) : Session :=
  (session.without id).remains.getD (.new key)

/-- Nobody and nothing is found then that was not there before. -/
theorem afterLeaving_less (session : Session) (id : ConnectionId) (key : SessionId) :
    (session.afterLeaving id key).members ⊆ session.members ∧
      (session.afterLeaving id key).pending.Sublist session.pending := by
  unfold afterLeaving remains
  split
  · exact ⟨List.nil_subset _, List.nil_sublist _⟩
  · exact ⟨members_without session id, pending_without session id⟩

end Session

namespace World

/-- Entries wait beside no member but the one who has sent them. -/
def OwnEntries (world : World Relay) : Prop :=
  ∀ id, ∀ entry ∈ (world.session id).pending, ∀ member ∈ (world.session id).members,
    member.id = entry.sender

variable {before after : World Relay} {id : SessionId}

theorem session_eq_of_sessions (same : after.sessions = before.sessions) :
    after.session = before.session := by
  funext id
  exact session_congr (congrFun same id)

/-- What holds of a changed session holds of all if it held of the others. -/
theorem OwnEntries.of_update {session : Session} (own : before.OwnEntries)
    (changed : after.session = update before.session id session)
    (inside : ∀ entry ∈ session.pending, ∀ member ∈ session.members,
      member.id = entry.sender) : after.OwnEntries := by
  intro other
  rw [changed, Function.update_apply]
  split
  · exact inside
  · exact own other

end World

theorem Wire.notices_offered (wire : Wire) (messages : List Outgoing) :
    (wire.offered messages).notices =
      wire.notices ++ if wire.attended then messages.filterMap Outgoing.notice? else [] := by
  unfold Wire.offered
  split
  · exact notices_carrying wire messages
  · exact (List.append_nil _).symm

theorem Outgoing.filterMap_notice?_notify (said : List Payload) :
    (said.map Outgoing.notify).filterMap Outgoing.notice? = said := by
  rw [List.filterMap_map]
  exact List.filterMap_some

namespace Ledger

/-- A ledger agrees with a world on whose wires the given notices were put so far. -/
structure Reflects (ledger : Ledger) (world : World Relay)
    (gained : ConnectionId → List Payload) : Prop where
  sound : world.core.poisoned = false
  own : world.OwnEntries
  pending : ∀ id, (world.session id).pending = (ledger.waiting id).map Posting.entry
  delivered : ∀ id, gained id = (ledger.delivered id).map Posting.data
  /-- What is on a wire now was put there last. -/
  on_wire : ∀ id, (world.wire id).notices <:+ gained id

/-- The ledger can be kept while one more incident happens. -/
def Continues (ledger : Ledger) (world : World Relay) (gained : ConnectionId → List Payload)
    (number : Nat) (incident : Incident) : Prop :=
  ∃ next, ledger.Moves number incident next ∧
    next.Reflects (world.incur incident) fun id => gained id ++ world.gained id incident

namespace Reflects

variable {ledger next : Ledger} {world : World Relay} {gained : ConnectionId → List Payload}
  {number : Nat} {call : HookCall}

theorem blank (configuration : PeerConfiguration) :
    blank.Reflects (Relay.initial configuration) fun _ => [] where
  sound := rfl
  own _ _ listed := nomatch listed
  pending _ := rfl
  delivered _ := rfl
  on_wire _ := List.suffix_rfl

/-- Calls only lengthen wires; a ledger keeps up with them if it gains as much. -/
theorem of_call (reflects : ledger.Reflects world gained)
    (own : (world.after call).OwnEntries) {more : ConnectionId → List Payload}
    (pending : ∀ id, ((world.after call).session id).pending =
      (next.waiting id).map Posting.entry)
    (longer : ∀ id, ((world.after call).wire id).notices = (world.wire id).notices ++ more id)
    (delivered : ∀ id, (next.delivered id).map Posting.data =
      (ledger.delivered id).map Posting.data ++ more id) :
    next.Reflects (world.incur (.call call))
      fun id => gained id ++ world.gained id (.call call) where
  sound := by rw [World.poisoned_incur, reflects.sound]
  own := own
  pending := pending
  delivered id := by
    rw [World.gained, World.added_of_append (longer id), delivered, reflects.delivered]
  on_wire id := by
    rw [World.gained, World.added_of_append (longer id)]
    obtain ⟨front, whole⟩ := reflects.on_wire id
    exact ⟨front, by rw [World.incur, longer, ← whole, List.append_assoc]⟩

/-- A call that puts no notice on a wire delivers nothing. -/
theorem of_quiet (reflects : ledger.Reflects world gained)
    (own : (world.after call).OwnEntries)
    (pending : ∀ id, ((world.after call).session id).pending =
      (next.waiting id).map Posting.entry)
    (notices : ∀ id, ((world.after call).wire id).notices = (world.wire id).notices)
    (delivered : next.delivered = ledger.delivered) :
    next.Reflects (world.incur (.call call))
      fun id => gained id ++ world.gained id (.call call) := by
  refine reflects.of_call own pending (fun id => (notices id).trans (List.append_nil _).symm) ?_
  intro id
  rw [delivered, List.append_nil]

/-- A call that changes no session and puts no notice on a wire moves nothing. -/
theorem still (reflects : ledger.Reflects world gained)
    (sessions : (world.after call).sessions = world.sessions)
    (notices : ∀ id, ((world.after call).wire id).notices = (world.wire id).notices) :
    ledger.Continues world gained number (.call call) := by
  have same := World.session_eq_of_sessions sessions
  refine ⟨ledger, .still, reflects.of_quiet ?_ ?_ notices rfl⟩
  · intro id
    rw [same]
    exact reflects.own id
  · intro id
    rw [same]
    exact reflects.pending id

/-- What a call puts on a wire where it offers messages to one connection. -/
theorem longer_of_offered {id : ConnectionId} {messages : List Outgoing}
    (wire : (world.after call).wire = update world.wire id ((world.wire id).offered messages))
    (other : ConnectionId) :
    ((world.after call).wire other).notices = (world.wire other).notices ++
      if other = id ∧ (world.wire id).attended then messages.filterMap Outgoing.notice?
      else [] := by
  rw [wire, Function.update_apply]
  by_cases same : other = id
  · subst same
    simp [Wire.notices_offered]
  · simp [same]

/-- A call that offers to nobody, or nothing that is a notice, puts no notice on a wire. -/
theorem notices_of_offered {id : ConnectionId} {messages : List Outgoing}
    (wire : (world.after call).wire = update world.wire id ((world.wire id).offered messages))
    (nothing : (world.wire id).attended = false ∨ messages.filterMap Outgoing.notice? = [])
    (other : ConnectionId) :
    ((world.after call).wire other).notices = (world.wire other).notices := by
  rw [longer_of_offered wire]
  rcases nothing with unattended | silent
  · simp [unattended]
  · simp [silent]

/-- What is offered to an attended wire is put there, and the postings behind it. -/
theorem longer_of_deliver {id : ConnectionId} (postings : List Posting)
    (attended : (world.wire id).attended = true)
    (wire : (world.after call).wire = update world.wire id
      ((world.wire id).offered ((postings.map Posting.data).map .notify)))
    (other : ConnectionId) :
    ((world.after call).wire other).notices = (world.wire other).notices ++
      if other = id then postings.map Posting.data else [] := by
  rw [longer_of_offered wire, Outgoing.filterMap_notice?_notify]
  simp [attended]

/-- What waits after a call that left only a rest in one session. -/
theorem pending_keepOnly (reflects : ledger.Reflects world gained) {id : SessionId}
    {session : Session} {rest : List Posting}
    (changed : (world.after call).session = update world.session id session)
    (left : session.pending = rest.map Posting.entry) (other : SessionId) :
    ((world.after call).session other).pending =
      ((ledger.keepOnly id rest).waiting other).map Posting.entry := by
  rw [changed]
  by_cases same : other = id
  · subst same
    rw [Function.update_self, waiting_keepOnly_self, left]
  · rw [Function.update_of_ne same, waiting_keepOnly_of_ne same, reflects.pending]

/-- What is taken off a wire, or lost with its receiver, has been put there all the
same. -/
theorem of_taken (reflects : ledger.Reflects world gained) {wires : Switchboard}
    (taken : ∀ id, wires.wire id = world.wire id ∨ (wires.wire id).outbox = []) :
    ledger.Reflects (world.withWires wires) fun id => gained id ++ [] where
  sound := reflects.sound
  own := reflects.own
  pending := reflects.pending
  delivered id := by rw [List.append_nil, reflects.delivered]
  on_wire id := by
    rw [List.append_nil]
    rcases taken id with same | empty
    · rw [World.wire, World.withWires, same]
      exact reflects.on_wire id
    · rw [World.wire, World.withWires, Wire.notices, empty]
      exact List.nil_suffix

/-! ## Call by call -/

variable (connection : Connection)

theorem continues_opened (reflects : ledger.Reflects world gained) :
    ledger.Continues world gained number (.call (.opened connection)) := by
  cases room : (world.session connection.session).isFull with
  | true =>
      have shown := Relay.opened_of_isFull connection reflects.sound room
      exact reflects.still shown.sessions fun id => by rw [World.after, shown.wire]
  | false =>
      have shown := Relay.opened_of_room connection reflects.sound room
      have changed := World.session_of_update shown.sessions
      have own : (world.after (.opened connection)).OwnEntries :=
        reflects.own.of_update changed fun _ listed => absurd listed List.not_mem_nil
      have waiting : (world.session connection.session).waiting =
          (ledger.waiting connection.session).map Posting.data := by
        rw [Session.waiting, reflects.pending, List.map_map]
        rfl
      have wire := shown.wire
      rw [waiting] at wire
      cases attended : (world.wire connection.id).attended with
      | true =>
          refine ⟨_, .handedOver rfl, reflects.of_call own
            (reflects.pending_keepOnly changed rfl) (longer_of_deliver _ attended wire) ?_⟩
          intro id
          exact map_extended Posting.data
      | false =>
          -- Nobody receives what has waited: it is given up.
          exact ⟨_, .givenUp connection.session (List.nil_sublist _), reflects.of_quiet own
            (reflects.pending_keepOnly changed rfl) (notices_of_offered wire (.inl attended)) rfl⟩

section

variable {text : Octets} {data : Payload} (heard : Request.parse text = .ok (.notify data))
  (unmarked : (world.wire connection.id).closing = false)

include heard unmarked

/-- What waits in the session of the sender was said by the other member, so that the
notice may go ahead. -/
theorem continues_passed (reflects : ledger.Reflects world gained) {peer : Connection}
    (other : (world.session connection.session).otherMember connection.id = some peer) :
    ledger.Continues world gained number (.call (.message connection text)) := by
  have shown := Relay.message_of_otherMember connection reflects.sound heard unmarked other
  cases attended : (world.wire peer.id).attended with
  | false => exact reflects.still shown.sessions (notices_of_offered shown.wire (.inl attended))
  | true =>
      have first : ∀ earlier ∈ ledger.waiting connection.session,
          earlier.sender ≠ connection := by
        rintro earlier listed rfl
        have waits : earlier.entry ∈ (world.session earlier.sender.session).pending := by
          rw [reflects.pending]
          exact List.mem_map_of_mem listed
        have said := reflects.own _ _ waits peer (Session.mem_of_otherMember other)
        exact Session.ne_of_otherMember other said
      have same : (world.after (.message connection text)).session = world.session :=
        World.session_eq_of_sessions shown.sessions
      refine ⟨_, .passed ⟨text, rfl, heard⟩ first peer.id, reflects.of_call ?_ ?_
        (longer_of_deliver [⟨number, connection, data⟩] attended shown.wire) ?_⟩
      · intro id
        rw [same]
        exact reflects.own id
      · intro id
        rw [same]
        exact reflects.pending id
      · intro id
        exact map_extended Posting.data

theorem continues_kept (reflects : ledger.Reflects world gained)
    (nobody : (world.session connection.session).otherMember connection.id = none) :
    ledger.Continues world gained number (.call (.message connection text)) := by
  have shown := Relay.message_of_no_otherMember connection reflects.sound heard unmarked nobody
  have changed := World.session_of_update shown.sessions
  have alone : ∀ member ∈ (world.session connection.session).members,
      member.id = connection.id := by
    intro member inside
    simpa using List.find?_eq_none.mp nobody member inside
  refine ⟨_, .kept ⟨text, rfl, heard⟩, reflects.of_quiet ?_ ?_ ?_ rfl⟩
  · apply reflects.own.of_update changed
    intro entry listed member inside
    rcases List.mem_append.mp listed with earlier | last
    · exact reflects.own _ entry earlier member inside
    · rw [List.mem_singleton.mp last]
      exact alone member inside
  · intro id
    rw [waiting_wait, map_extended, ← reflects.pending, World.after, changed,
      Function.update_apply]
    split
    · next same => rw [same]; rfl
    · exact (List.append_nil _).symm
  · intro id
    rw [World.after, shown.wire]

end

theorem continues_message (reflects : ledger.Reflects world gained) (text : Octets) :
    ledger.Continues world gained number (.call (.message connection text)) := by
  cases parsed : Request.parse text with
  | error fault =>
      have shown : (Relay.hooks.answer (.message connection text) world).Shows _ _ _ :=
        Relay.message_of_fault connection parsed
      exact reflects.still shown.sessions fun id => by rw [World.after, shown.wire]
  | ok request =>
      cases request with
      | getConfiguration msgId =>
          have shown : (Relay.hooks.answer (.message connection text) world).Shows _ _ _ :=
            Relay.message_of_getConfiguration connection parsed
          exact reflects.still shown.sessions (notices_of_offered shown.wire (.inr rfl))
      | unrecognized reason =>
          have shown : (Relay.hooks.answer (.message connection text) world).Shows _ _ _ :=
            Relay.message_of_unrecognized connection parsed
          exact reflects.still shown.sessions fun id => by rw [World.after, shown.wire]
      | notify data =>
          cases closing : (world.wire connection.id).closing with
          | true =>
              have shown := Relay.message_of_closing connection parsed closing
              exact reflects.still shown.sessions fun id => by rw [World.after, shown.wire]
          | false =>
              cases other : (world.session connection.session).otherMember connection.id with
              | some peer => exact reflects.continues_passed connection parsed closing other
              | none => exact reflects.continues_kept connection parsed closing other

theorem continues_closed (reflects : ledger.Reflects world gained) :
    ledger.Continues world gained number (.call (.closed connection)) := by
  cases present : world.sessions connection.session with
  | none =>
      have shown := Relay.closed_of_absent connection reflects.sound present
      exact reflects.still shown.sessions fun id => by rw [World.after, shown.wire]
  | some session =>
      have shown := Relay.closed_of_present connection reflects.sound present
      have changed : (world.after (.closed connection)).session =
          update world.session connection.session ((world.session
            connection.session).afterLeaving connection.id connection.session) := by
        rw [World.session_of_sessions present]
        exact World.session_of_update shown.sessions
      obtain ⟨members, pending⟩ := Session.afterLeaving_less
        (world.session connection.session) connection.id connection.session
      obtain ⟨rest, fewer, same⟩ :=
        List.sublist_map_iff.mp (reflects.pending connection.session ▸ pending)
      refine ⟨_, .givenUp connection.session fewer, reflects.of_quiet ?_
        (reflects.pending_keepOnly changed ?_) ?_ rfl⟩
      · apply reflects.own.of_update changed
        intro entry listed member inside
        exact reflects.own _ entry (pending.subset listed) member (members inside)
      · exact same
      · intro id
        rw [World.after, shown.wire]
        cases session.partner? connection.id with
        | none => rfl
        | some peer =>
            rw [Option.elim_some, Function.update_apply]
            split
            · next same => rw [same]; rfl
            · rfl

theorem continues (reflects : ledger.Reflects world gained) (incident : Incident) :
    ledger.Continues world gained number incident := by
  cases incident with
  | call call =>
      cases call with
      | handshake id =>
          have shown := Relay.handshake_shows id world
          exact reflects.still shown.sessions fun other => by rw [World.after, shown.wire]
      | opened connection => exact reflects.continues_opened connection
      | message connection text => exact reflects.continues_message connection text
      | closed connection => exact reflects.continues_closed connection
  | collected id =>
      refine ⟨ledger, .still, reflects.of_taken fun other => ?_⟩
      show Switchboard.wire (world.wires.collect id).2 other = _ ∨ _
      rw [Switchboard.wire_collect]
      split
      · exact .inr rfl
      · exact .inl rfl
  | abandoned id =>
      refine ⟨ledger, .still, reflects.of_taken fun other => ?_⟩
      show Switchboard.wire (world.wires.abandon id) other = _ ∨ _
      rw [Switchboard.wire_abandon]
      split
      · exact .inr rfl
      · exact .inl rfl

end Reflects

/-! ## Along a run -/

theorem exists_reflects (configuration : PeerConfiguration) (run : List Incident) :
    ∃ ledger : Ledger, ledger.Traces run ∧
      ledger.Reflects ((Relay.initial configuration).incurAll run)
        fun id => (Relay.initial configuration).gainedAlong id run := by
  induction run using List.reverseRecOn with
  | nil => exact ⟨.blank, .blank, .blank configuration⟩
  | append_singleton past incident ih =>
      obtain ⟨ledger, traced, reflects⟩ := ih
      obtain ⟨next, moved, after⟩ := reflects.continues incident
      refine ⟨next, traced.snoc moved, ?_⟩
      simp only [World.incurAll_snoc, World.gainedAlong_snoc]
      exact after

namespace Sound

variable {run : List Incident} {ledger : Ledger} (sound : ledger.Sound run)

include sound

theorem nodup_delivered (id : ConnectionId) : (ledger.delivered id).Nodup := by
  apply (sound.in_order id).imp
  rintro earlier later ahead rfl
  exact Nat.lt_irrefl _ (ahead rfl)

theorem nodup_waiting (id : SessionId) : (ledger.waiting id).Nodup := by
  apply (sound.queued id).imp
  rintro earlier later less rfl
  exact Nat.lt_irrefl _ less

theorem unique_place {posting : Posting} {place other : Whereabouts}
    (here : ledger.Finds posting place) (there : ledger.Finds posting other) :
    place = other := by
  cases place with
  | wire id =>
      cases other with
      | wire id' => exact congrArg Whereabouts.wire (sound.one_wire id id' posting here there)
      | session id' => exact absurd there (sound.not_waiting here id')
      | discarded => exact absurd here (there.1 id)
  | session id =>
      cases other with
      | wire id' => exact absurd here (sound.not_waiting there id)
      | session id' =>
          have home := (sound.waits id posting here).2
          rw [(sound.waits id' posting there).2] at home
          exact congrArg Whereabouts.session home.symm
      | discarded => exact absurd here (there.2 id)
  | discarded =>
      cases other with
      | wire id' => exact absurd there (here.1 id')
      | session id' => exact absurd there (here.2 id')
      | discarded => rfl

theorem existsUnique_place (posting : Posting) : ∃! place, ledger.Finds posting place := by
  have somewhere : ∃ place, ledger.Finds posting place := by
    by_cases arrived : ∃ id, posting ∈ ledger.delivered id
    · exact arrived.elim fun id listed => ⟨.wire id, listed⟩
    by_cases waits : ∃ id, posting ∈ ledger.waiting id
    · exact waits.elim fun id listed => ⟨.session id, listed⟩
    · exact ⟨.discarded, not_exists.mp arrived, not_exists.mp waits⟩
  obtain ⟨place, here⟩ := somewhere
  exact ⟨place, here, fun other there => sound.unique_place there here⟩

/-- What one connection has sent to another stands in the order in which it was sent. -/
theorem numbers_ascend (sender : Connection) (id : ConnectionId) :
    (((ledger.delivered id).filter fun posting => posting.sender = sender).map
      Posting.number).Pairwise (· < ·) := by
  rw [List.pairwise_map, List.pairwise_filter]
  apply (sound.in_order id).imp
  intro earlier later ahead one two
  simp only [decide_eq_true_eq] at one two
  exact ahead (one.trans two.symm)

end Sound

end Ledger

/-- The accounts of a run: a ledger that was kept by moving postings and that agrees with
the world. -/
structure Accounts (configuration : PeerConfiguration) (run : List Incident)
    (ledger : Ledger) : Prop where
  /-- No posting was ever copied or brought back. -/
  traced : ledger.Traces run
  /-- Every notice that was handed in is in one place only. -/
  one_place : ∀ posting, posting.HandedIn run → ∃! place, ledger.Finds posting place
  once_on_wire : ∀ id, (ledger.delivered id).Nodup
  once_in_session : ∀ id, (ledger.waiting id).Nodup
  /-- What waits in the sessions is what waits by the ledger, and was handed in. -/
  pending : ∀ id, (((Relay.initial configuration).incurAll run).session id).pending =
      (ledger.waiting id).map Posting.entry ∧
    ∀ posting ∈ ledger.waiting id, posting.HandedIn run
  /-- What was ever put on a wire is what was delivered by the ledger, and was handed in. -/
  delivered : ∀ id, (Relay.initial configuration).gainedAlong id run =
      (ledger.delivered id).map Posting.data ∧
    ∀ posting ∈ ledger.delivered id, posting.HandedIn run
  /-- The frames that are on a wire now are the last that were put there. -/
  frames : ∀ id, (((Relay.initial configuration).incurAll run).wire id).noticeFrames <:+
    (ledger.delivered id).map fun posting => noticeFrame posting.data
  /-- Of what one connection has sent to another the earlier comes first. -/
  in_order : ∀ sender id, (((ledger.delivered id).filter fun posting =>
    posting.sender = sender).map Posting.number).Pairwise (· < ·)

/-- Whatever happens to a relay, every notice is accounted for. -/
theorem exists_accounts (configuration : PeerConfiguration) (run : List Incident) :
    ∃ ledger, Accounts configuration run ledger := by
  obtain ⟨ledger, traced, reflects⟩ := Ledger.exists_reflects configuration run
  have sound := traced.sound
  refine ⟨ledger, traced, fun posting _ => sound.existsUnique_place posting,
    sound.nodup_delivered, sound.nodup_waiting, ?_, ?_, ?_, sound.numbers_ascend⟩
  · exact fun id => ⟨reflects.pending id, fun posting listed => (sound.waits id posting listed).1⟩
  · exact fun id => ⟨reflects.delivered id, sound.arrived id⟩
  · intro id
    have last := reflects.on_wire id
    rw [reflects.delivered] at last
    rw [Wire.noticeFrames_eq, ← Function.comp_def noticeFrame, ← List.map_map]
    exact last.map noticeFrame

/-- One who was never opened is heard, before and after the other comes, in order. -/
example : (Relay.initial default).gainedAlong (visitor 1 "room").id
    [.call (.message (visitor 0 "room") (notice "1")), .call (.opened (visitor 1 "room")),
      .call (.message (visitor 0 "room") (notice "2"))] = [.ofText "1", .ofText "2"] := by
  decide

end Rendezvous
