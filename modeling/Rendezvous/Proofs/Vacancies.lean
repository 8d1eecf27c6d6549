/-
# Sessions without members

A notice may come before anybody is a member of its session; it then waits in a session
that nobody has entered. Such a session lasts until somebody is opened or ends in it: the
one takes all that waits, with the other the session is gone. Nothing is promised here about
the order of calls.
-/

import Rendezvous.Proofs.Accounts
import Rendezvous.Proofs.Footprint
import Rendezvous.Proofs.Refusals

namespace Rendezvous

/-- A call that opens or ends a connection of the session. -/
def HookCall.Stirs (session : SessionId) : HookCall → Prop
  | .opened connection | .closed connection => connection.session = session
  | .handshake _ | .message _ _ => False

/-- Nobody is opened and nobody ends in the session. -/
def Spares (session : SessionId) (part : History) : Prop := ∀ call ∈ part, ¬ call.Stirs session

instance (session : SessionId) : (call : HookCall) → Decidable (call.Stirs session)
  | .opened connection | .closed connection =>
    inferInstanceAs (Decidable (connection.session = session))
  | .handshake _ | .message _ _ => inferInstanceAs (Decidable False)

section

variable {session : SessionId} {front back rest : History} {call : HookCall}

theorem spares_nil : Spares session [] := List.forall_mem_nil _

theorem spares_append :
    Spares session (front ++ back) ↔ Spares session front ∧ Spares session back :=
  List.forall_mem_append

theorem spares_cons : Spares session (call :: rest) ↔ ¬ call.Stirs session ∧ Spares session rest :=
  List.forall_mem_cons

theorem spares_snoc :
    Spares session (front ++ [call]) ↔ Spares session front ∧ ¬ call.Stirs session := by
  rw [spares_append, spares_cons, and_iff_left spares_nil]

/-- A part of a history spares a session up to the first call that does not. -/
theorem spares_or_exists (session : SessionId) (part : History) :
    Spares session part ∨ ∃ front call back, part = front ++ call :: back ∧
      Spares session front ∧ call.Stirs session := by
  induction part with
  | nil => exact .inl spares_nil
  | cons call rest ih =>
      by_cases stirs : call.Stirs session
      · exact .inr ⟨[], call, rest, rfl, spares_nil, stirs⟩
      · rcases ih with spares | ⟨front, stirring, back, rfl, spares, stirs'⟩
        · exact .inl (spares_cons.mpr ⟨stirs, spares⟩)
        · exact .inr ⟨call :: front, stirring, back, rfl, spares_cons.mpr ⟨stirs, spares⟩, stirs'⟩

end

namespace World

variable {world : World Relay} {call : HookCall} {id : SessionId} {connection : Connection}
  {wire : ConnectionId} {heard : Heard}

/-! ## One call -/

section

variable (sound : world.core.poisoned = false)

include sound

theorem session_after (call : HookCall) : (world.after call).session =
    Function.update world.session call.session
      ((world.effect call).stored.getD (.new call.session)) :=
  session_of_update (sessions_after sound call)

theorem session_after_self (call : HookCall) :
    (world.after call).session call.session =
      (world.effect call).stored.getD (.new call.session) := by
  rw [session_after sound, Function.update_self]

theorem session_after_of_ne (other : call.session ≠ id) :
    (world.after call).session id = world.session id := by
  rw [session_after sound, Function.update_of_ne (Ne.symm other)]

/-- A call that spares a session leaves it as it was or adds an entry to it. -/
theorem session_after_of_spared (spares : ¬ call.Stirs id) :
    (world.after call).session id = world.session id ∨
      ∃ sender text data, call = .message sender text ∧ sender.session = id ∧
        Request.parse text = .ok (.notify data) ∧
          (world.after call).session id = (world.session id).enqueue sender.id data := by
  by_cases here : call.session = id
  · subst here
    have stored := session_after_self sound call
    cases call with
    | handshake session => exact .inl stored
    | opened connection | closed connection => exact absurd rfl spares
    | message sender text =>
        have comes := comes_effect world (.message sender text)
        generalize world.effect (.message sender text) = effect at comes stored
        cases comes with
        | idle | answered | passed => exact .inl stored
        | kept parsed => exact .inr ⟨sender, text, _, rfl, rfl, parsed, stored⟩
  · exact .inl (session_after_of_ne sound here)

theorem members_after_of_spared (spares : ¬ call.Stirs id) :
    ((world.after call).session id).members = (world.session id).members := by
  obtain same | ⟨sender, text, data, -, -, -, longer⟩ := session_after_of_spared sound spares
  · rw [same]
  · rw [longer, Session.enqueue]

theorem pending_subset_after (spares : ¬ call.Stirs id) :
    (world.session id).pending ⊆ ((world.after call).session id).pending := by
  obtain same | ⟨sender, text, data, -, -, -, longer⟩ := session_after_of_spared sound spares
  · rw [same]
    exact List.Subset.refl _
  · rw [longer, Session.enqueue]
    exact List.subset_append_left _ _

/-- Somebody is a member once a connection was opened, taken in or not. -/
theorem members_after_opened_ne_nil :
    ((world.after (.opened connection)).session connection.session).members ≠ [] := by
  have stored : (world.after (.opened connection)).session connection.session = _ :=
    session_after_self sound (.opened connection)
  intro empty
  rw [effect_opened] at stored
  split at stored
  · next full =>
    have same : (world.after (.opened connection)).session connection.session =
      world.session connection.session := stored
    rw [← same, Session.isFull, empty] at full
    cases full
  · have entered : (world.after (.opened connection)).session connection.session =
      (world.session connection.session).welcoming connection := stored
    rw [entered] at empty
    simp [Session.welcoming] at empty

/-- Where nobody is left by an end, nothing waits. -/
theorem pending_after_closed
    (empty : ((world.after (.closed connection)).session connection.session).members = []) :
    ((world.after (.closed connection)).session connection.session).pending = [] := by
  have stored : (world.after (.closed connection)).session connection.session = _ :=
    session_after_self sound (.closed connection)
  rw [effect_closed] at stored
  cases left : (world.sessions connection.session).bind fun session =>
      (session.without connection.id).remains with
  | none =>
      rw [left] at stored
      exact congrArg Session.pending stored
  | some session =>
      obtain ⟨before, -, remains⟩ := Option.bind_eq_some_iff.mp left
      obtain rfl := Session.eq_of_remains remains
      rw [left] at stored
      have found : (world.after (.closed connection)).session connection.session =
        before.without connection.id := stored
      rw [found] at empty
      simp [Session.remains, Session.isEmpty, empty] at remains

/-- Where nobody is after somebody was opened or has ended, nothing waits. -/
theorem pending_after_of_stirred (stirs : call.Stirs id)
    (empty : ((world.after call).session id).members = []) :
    ((world.after call).session id).pending = [] := by
  cases call with
  | handshake | message => cases stirs
  | opened connection =>
      obtain rfl : connection.session = id := stirs
      exact absurd empty (members_after_opened_ne_nil sound)
  | closed connection =>
      obtain rfl : connection.session = id := stirs
      exact pending_after_closed sound empty

/-- With an end nothing is left of a session without members. -/
theorem sessions_after_closed_of_empty
    (empty : (world.session connection.session).members = []) :
    (world.after (.closed connection)).sessions connection.session = none := by
  rw [sessions_after sound, effect_closed]
  refine (Function.update_self ..).trans ?_
  apply Option.bind_eq_none_iff.mpr
  intro session present
  rw [session_of_sessions present] at empty
  have less := Session.members_without session connection.id
  rw [empty, List.subset_nil] at less
  simp [Session.remains, Session.isEmpty, less]

/-- Nobody is a member who was none before and is not just opened. -/
theorem member_before_or_opened {member : Connection}
    (inside : member ∈ ((world.after call).session id).members) :
    member ∈ (world.session id).members ∨ call = .opened member := by
  obtain ⟨stored, target, leaves⟩ := exists_leaves sound call
  by_cases here : call.session = id
  · subst here
    rw [session_of_update leaves.sessions, Function.update_self] at inside
    cases stored with
    | none => cases inside
    | some session => exact leaves.known session rfl member inside
  · rw [session_after_of_ne sound here] at inside
    exact .inl inside

/-- Nobody is hung up who was not being hung up before and is no member. -/
theorem closing_before_or_member (marked : ((world.after call).wire wire).closing = true) :
    (world.wire wire).closing = true ∨
      ∃ id, ∃ member ∈ (world.session id).members, member.id = wire := by
  rw [closing_eq_after sound, Bool.or_eq_true, decide_eq_true_iff] at marked
  rcases marked with hung | before
  · have comes := comes_effect world call
    generalize world.effect call = effect at comes hung
    cases comes with
    | idle | welcomed | answered | passed | kept => cases hung
    | @closed connection =>
        obtain ⟨session, present, found⟩ := Option.bind_eq_some_iff.mp hung
        obtain ⟨peer, partner, rfl⟩ := Option.map_eq_some_iff.mp found
        have inside : peer ∈ (world.session connection.session).members := by
          rw [session_of_sessions present]
          exact Session.mem_of_partner? partner
        exact .inr ⟨_, peer, inside, rfl⟩
  · exact .inl before

/-! ## What one call lets be heard -/

theorem added_eq (attended : (world.wire wire).attended = true) :
    world.added call wire = ((world.effect call).mail wire).filterMap Outgoing.notice? := by
  apply added_of_append
  rw [Wire.notices, outbox_after sound, if_pos attended, List.filterMap_append]
  rfl

/-- Who is opened in a session that has room hears everything that waits there. -/
theorem heard_opened (room : (world.session connection.session).isFull = false)
    (attended : (world.wire connection.id).attended = true) :
    world.heard (.opened connection) connection.id =
      (world.session connection.session).pending.map fun entry =>
        ⟨entry.sender, entry.payload⟩ := by
  have added : world.added (.opened connection) connection.id =
      (world.session connection.session).waiting := by
    rw [added_eq sound attended, effect_opened, if_neg (by simp [room])]
    simpa [Effect.mail] using Outgoing.filterMap_notice?_notify _
  rw [World.heard, added, speakers, Session.waiting, List.zipWith_map, List.zipWith_self]

/-- A text puts no notice on the wire of the one who has sent it. -/
theorem added_message_self {speaker : Connection} {text : Octets}
    (attended : (world.wire speaker.id).attended = true) :
    world.added (.message speaker text) speaker.id = [] := by
  rw [added_eq sound attended]
  have comes := comes_effect world (.message speaker text)
  generalize world.effect (.message speaker text) = effect at comes
  cases comes with
  | idle | kept => rfl
  | answered => simp [Effect.mail, Outgoing.notice?]
  | passed parsed found => simp [Effect.mail, Session.ne_of_otherMember found]

theorem speaker_ne_of_heard_message {speaker : Connection} {text : Octets}
    (attended : (world.wire wire).attended = true)
    (listed : heard ∈ world.heard (.message speaker text) wire) : heard.speaker ≠ wire := by
  intro same
  have own : heard.speaker = speaker.id := by
    rw [World.heard, speakers] at listed
    cases added : world.added (.message speaker text) wire with
    | nil => simp [added] at listed
    | cons data rest =>
        rw [added, List.zipWith_cons_cons, List.zipWith_nil_left, List.mem_singleton] at listed
        rw [listed]
  obtain rfl : speaker.id = wire := own.symm.trans same
  rw [World.heard, added_message_self sound attended, List.zipWith_nil_right] at listed
  cases listed

/-- What an opening lets be heard has waited for the one who is opened. -/
theorem entry_of_heard_opened (attended : (world.wire wire).attended = true)
    (listed : heard ∈ world.heard (.opened connection) wire) :
    connection.id = wire ∧ ∃ entry ∈ (world.session connection.session).pending,
      heard = ⟨entry.sender, entry.payload⟩ := by
  by_cases room : (world.session connection.session).isFull = true
  · rw [World.heard, added_eq sound attended, effect_opened, if_pos room] at listed
    simp [Effect.mail, Effect.idle] at listed
  by_cases same : connection.id = wire
  · subst same
    rw [heard_opened sound (Bool.eq_false_iff.mpr room) attended] at listed
    obtain ⟨entry, waits, rfl⟩ := List.mem_map.mp listed
    exact ⟨rfl, entry, waits, rfl⟩
  · rw [World.heard, added_eq sound attended, effect_opened, if_neg room] at listed
    simp [Effect.mail, same] at listed

/-- What is heard was said by another connection, or has waited for the one that is opened. -/
theorem mem_heard (attended : (world.wire wire).attended = true)
    (listed : heard ∈ world.heard call wire) :
    heard.speaker ≠ wire ∨ ∃ newcomer, call = .opened newcomer ∧ newcomer.id = wire ∧
      ∃ entry ∈ (world.session newcomer.session).pending,
        heard = ⟨entry.sender, entry.payload⟩ := by
  cases call with
  | handshake | closed => simp [World.heard, speakers] at listed
  | message speaker text => exact .inl (speaker_ne_of_heard_message sound attended listed)
  | opened newcomer => exact .inr ⟨newcomer, rfl, entry_of_heard_opened sound attended listed⟩

end

/-- What is heard along a history is heard with one of its calls. -/
theorem exists_heard_of_mem {history : History} (listed : heard ∈ world.heardAlong wire history) :
    ∃ past call rest, history = past ++ call :: rest ∧
      heard ∈ (world.afterAll past).heard call wire := by
  induction history generalizing world with
  | nil => cases listed
  | cons call rest ih =>
      rw [heardAlong, List.mem_append] at listed
      rcases listed with now | later
      · exact ⟨[], call, rest, rfl, now⟩
      · obtain ⟨past, call', rest', rfl, there⟩ := ih later
        exact ⟨call :: past, call', rest', rfl, there⟩

theorem incurAll_map_call (world : World Relay) (history : History) :
    world.incurAll (history.map .call) = world.afterAll history := by
  rw [incurAll, List.foldl_map]
  rfl

end World

/-! ## Along any history -/

section

variable (configuration : PeerConfiguration) (history : History)

theorem poisoned_worldAfter : (worldAfter configuration history).core.poisoned = false := by
  rw [worldAfter, ← World.incurAll_map_call]
  exact World.poisoned_incurAll configuration _

theorem attended_worldAfter (id : ConnectionId) :
    ((worldAfter configuration history).wire id).attended = true := by
  rw [worldAfter, ← World.incurAll_map_call, ← Bool.not_eq_false, World.attended_incurAll]
  simp

theorem ownEntries_worldAfter : (worldAfter configuration history).OwnEntries := by
  obtain ⟨ledger, -, reflects⟩ := Ledger.exists_reflects configuration (history.map .call)
  rw [World.incurAll_map_call] at reflects
  exact reflects.own

end

section

variable {configuration : PeerConfiguration} {past : History} {id : SessionId}

theorem opened_of_member {member : Connection}
    (inside : member ∈ ((worldAfter configuration past).session id).members) :
    .opened member ∈ past := by
  induction past using List.reverseRecOn with
  | nil => cases inside
  | append_singleton past call ih =>
      rw [worldAfter_snoc] at inside
      rcases World.member_before_or_opened (poisoned_worldAfter configuration past) inside with
        before | rfl
      · exact List.mem_append_left _ (ih before)
      · exact List.mem_append_right _ List.mem_cons_self

theorem opened_of_closing {wire : ConnectionId}
    (marked : ((worldAfter configuration past).wire wire).closing = true) :
    ∃ connection, .opened connection ∈ past ∧ connection.id = wire := by
  induction past using List.reverseRecOn with
  | nil => cases marked
  | append_singleton past call ih =>
      rw [worldAfter_snoc] at marked
      rcases World.closing_before_or_member (poisoned_worldAfter configuration past) marked with
        before | ⟨session, member, inside, rfl⟩
      · obtain ⟨connection, opened, same⟩ := ih before
        exact ⟨connection, List.mem_append_left _ opened, same⟩
      · exact ⟨member, List.mem_append_left _ (opened_of_member inside), rfl⟩

end

/-- An entry was left by somebody who spoke when the session had no members, and nobody has
been opened or has ended there since. -/
def Awaits (configuration : PeerConfiguration) (past : History) (id : SessionId)
    (entry : PendingEntry) : Prop :=
  ∃ before sender text since, past = before ++ .message sender text :: since ∧
    sender.id = entry.sender ∧ sender.session = id ∧
      Request.parse text = .ok (.notify entry.payload) ∧
        ((worldAfter configuration before).session id).members = [] ∧ Spares id since

section

variable {configuration : PeerConfiguration} {past : History} {id : SessionId}
  {entry : PendingEntry} {call : HookCall}

theorem Awaits.snoc (awaits : Awaits configuration past id entry) (spares : ¬ call.Stirs id) :
    Awaits configuration (past ++ [call]) id entry := by
  obtain ⟨before, sender, text, since, rfl, same, home, said, empty, still⟩ := awaits
  refine ⟨before, sender, text, since ++ [call], by simp, same, home, said, empty, ?_⟩
  exact spares_snoc.mpr ⟨still, spares⟩

/-- This is where everything comes from that waits where nobody is. -/
theorem awaits_of_mem (empty : ((worldAfter configuration past).session id).members = [])
    (listed : entry ∈ ((worldAfter configuration past).session id).pending) :
    Awaits configuration past id entry := by
  induction past using List.reverseRecOn with
  | nil => cases listed
  | append_singleton past call ih =>
      have sound := poisoned_worldAfter configuration past
      rw [worldAfter_snoc] at empty listed
      have spares : ¬ call.Stirs id := by
        intro stirs
        rw [World.pending_after_of_stirred sound stirs empty] at listed
        cases listed
      rw [World.members_after_of_spared sound spares] at empty
      obtain same | ⟨sender, text, data, rfl, home, said, longer⟩ :=
        World.session_after_of_spared sound spares
      · rw [same] at listed
        exact (ih empty listed).snoc spares
      · rw [longer, Session.enqueue, List.mem_append, List.mem_singleton] at listed
        rcases listed with earlier | rfl
        · exact (ih empty earlier).snoc spares
        · exact ⟨past, sender, text, [], rfl, rfl, home, said, empty, spares_nil⟩

/-- What waits where nobody is goes on waiting while the session is spared. -/
theorem waits_while_spared {since : History}
    (empty : ((worldAfter configuration past).session id).members = [])
    (listed : entry ∈ ((worldAfter configuration past).session id).pending)
    (spares : Spares id since) :
    ((worldAfter configuration (past ++ since)).session id).members = [] ∧
      entry ∈ ((worldAfter configuration (past ++ since)).session id).pending := by
  induction since using List.reverseRecOn with
  | nil => exact (List.append_nil past).symm ▸ ⟨empty, listed⟩
  | append_singleton since call ih =>
      obtain ⟨still, spared⟩ := spares_snoc.mp spares
      obtain ⟨empty, listed⟩ := ih still
      have sound := poisoned_worldAfter configuration (past ++ since)
      rw [← List.append_assoc, worldAfter_snoc]
      exact ⟨(World.members_after_of_spared sound spared).trans empty,
        World.pending_subset_after sound spared listed⟩

end

end Rendezvous
