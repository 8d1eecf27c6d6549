/-
# Places in a session

A handshake looks whether there is a place left in a session, and an opening takes it; in
between others may have come, so that any number of connections may hold an admission when
there is a place for one. While nobody leaves, places go to those who open first, however
the handshakes fell, and whoever comes later is refused and changes nothing.

Between the calls for the session anything may happen in others, messages may come in and
receivers may be lost.
-/

import Rendezvous.Proofs.Interjections
import Rendezvous.Proofs.Refusals

namespace Rendezvous

namespace Incident

/-- The connection that is opened for a session. -/
def newcomer? (id : SessionId) : Incident → Option Connection
  | .call (.opened connection) => if connection.session = id then some connection else none
  | .call (.handshake _) | .call (.message _ _) | .call (.closed _) => none
  | .collected _ | .abandoned _ => none

/-- Whether an incident is the end of a connection of a session. -/
def isEndIn (id : SessionId) : Incident → Bool
  | .call (.closed connection) => connection.session = id
  | .call (.handshake _) | .call (.message _ _) | .call (.opened _) => false
  | .collected _ | .abandoned _ => false

theorem newcomer?_eq_some_iff {id : SessionId} {incident : Incident} {connection : Connection} :
    incident.newcomer? id = some connection ↔
      incident = .call (.opened connection) ∧ connection.session = id := by
  unfold newcomer?
  split <;> grind

end Incident

/-- The connections that are opened for a session along a run, in their order, whether they
are taken in or not. -/
def newcomers (id : SessionId) (run : List Incident) : List Connection :=
  run.filterMap (Incident.newcomer? id)

/-- Nobody leaves a session along a run. -/
def NobodyLeaves (id : SessionId) (run : List Incident) : Prop :=
  ∀ incident ∈ run, incident.isEndIn id = false

instance (id : SessionId) (run : List Incident) : Decidable (NobodyLeaves id run) :=
  inferInstanceAs (Decidable (∀ incident ∈ run, incident.isEndIn id = false))

theorem newcomers_append (id : SessionId) (first second : List Incident) :
    newcomers id (first ++ second) = newcomers id first ++ newcomers id second :=
  List.filterMap_append

theorem NobodyLeaves.of_prefix {id : SessionId} {past run : List Incident}
    (stay : NobodyLeaves id run) (front : past <+: run) : NobodyLeaves id past :=
  fun incident listed => stay incident (front.subset listed)

namespace World

/-- How many more connections a session takes. -/
def places (world : World Relay) (id : SessionId) : Nat :=
  Session.capacity - (world.session id).members.length

/-- The connection that is opened for a session with the given result. -/
def openedWith (answer : Except SignalingError Unit) (id : SessionId) (world : World Relay)
    (incident : Incident) : List Connection :=
  (incident.newcomer? id).toList.filter fun connection =>
    world.result (.opened connection) = answer

variable {world : World Relay} {id : SessionId}

/-! ## One incident -/

theorem sessions_incur_of_ne (sound : world.core.poisoned = false) {incident : Incident}
    (elsewhere : ∀ call, incident = .call call → call.session ≠ id) :
    (world.incur incident).sessions id = world.sessions id := by
  cases incident with
  | call call =>
      rw [World.incur, sessions_after sound, Function.update_of_ne (elsewhere call rfl).symm]
  | collected other | abandoned other => rfl

theorem places_eq_zero_iff : world.places id = 0 ↔ (world.session id).isFull = true := by
  rw [places, Session.isFull, decide_eq_true_iff]
  omega

/-- The members of a session after a call for it that is no end. -/
theorem members_after (sound : world.core.poisoned = false) {call : HookCall}
    (here : call.session = id) (stays : (Incident.call call).isEndIn id = false) :
    ((world.after call).session id).members = (world.session id).members ++
      ((Incident.call call).newcomer? id).toList.take (world.places id) := by
  subst here
  rw [session_of_update (sessions_after sound call), Function.update_self]
  cases call with
  | handshake session =>
      rw [Incident.newcomer?, Option.toList_none, List.take_nil, List.append_nil]
      rfl
  | opened connection =>
      rw [effect_opened, Incident.newcomer?, HookCall.session, if_pos rfl]
      split
      · next full =>
        rw [places_eq_zero_iff.mpr full]
        exact (List.append_nil _).symm
      · next room =>
        rw [← places_eq_zero_iff] at room
        rw [Option.toList_some, List.take_of_length_le (Nat.pos_of_ne_zero room)]
        rfl
  | message connection text =>
      have comes := world.comes_effect (.message connection text)
      rw [Incident.newcomer?, Option.toList_none, List.take_nil, List.append_nil]
      generalize world.effect (.message connection text) = effect at comes ⊢
      cases comes with
      | idle | answered parsed | passed parsed found | kept parsed => rfl
  | closed connection => simp [Incident.isEndIn, HookCall.session] at stays

/-- The members of a session change by newcomers for whom there is a place, while nobody
leaves it. -/
theorem members_incur (sound : world.core.poisoned = false) {incident : Incident}
    (stays : incident.isEndIn id = false) : ((world.incur incident).session id).members =
      (world.session id).members ++ (incident.newcomer? id).toList.take (world.places id) := by
  by_cases here : ∃ call, incident = .call call ∧ call.session = id
  · obtain ⟨call, rfl, here⟩ := here
    exact members_after sound here stays
  · have elsewhere (call : HookCall) (made : incident = .call call) : call.session ≠ id :=
      fun same => here ⟨call, made, same⟩
    have nobody : incident.newcomer? id = none := by
      rw [Option.eq_none_iff_forall_ne_some]
      intro connection found
      obtain ⟨rfl, same⟩ := Incident.newcomer?_eq_some_iff.mp found
      exact elsewhere _ rfl same
    rw [World.session, sessions_incur_of_ne sound elsewhere, nobody]
    simp [World.session]

/-! ## A run without ends -/

/-- While nobody leaves, the members are those who were there and the first who come. -/
theorem members_incurAll (sound : world.core.poisoned = false) {race : List Incident}
    (stay : NobodyLeaves id race) :
    ((world.incurAll race).session id).members =
      (world.session id).members ++ (newcomers id race).take (world.places id) := by
  induction race using List.reverseRecOn with
  | nil =>
      rw [newcomers, List.filterMap_nil, List.take_nil, List.append_nil]
      rfl
  | append_singleton past incident ih =>
      have stay' := stay.of_prefix (List.prefix_append past [incident])
      have stays : incident.isEndIn id = false := stay incident (by simp)
      have before := ih stay'
      have left : (world.incurAll past).places id =
          world.places id - (newcomers id past).length := by
        rw [places, before, List.length_append, List.length_take, places]
        omega
      rw [incurAll_snoc, members_incur ((poisoned_incurAll_eq world past).trans sound) stays,
        before, left, newcomers_append, List.take_append, List.append_assoc]
      rfl

section

variable (order : world.InOrder) (sound : world.core.poisoned = false) {race : List Incident}
  (stay : NobodyLeaves id race)

include order sound stay

/-- A session is full from the moment on when the last place in it is taken. -/
theorem isFull_incurAll_iff : ((world.incurAll race).session id).isFull = true ↔
    world.places id ≤ (newcomers id race).length := by
  have within : (world.session id).members.length ≤ Session.capacity := (order id).within
  rw [Session.isFull, decide_eq_true_iff, members_incurAll sound stay, List.length_append,
    List.length_take, places]
  omega

theorem result_handshake_incurAll : (world.incurAll race).result (.handshake id) =
    if (newcomers id race).length < world.places id then .ok () else .error (.spaceFull id) := by
  rw [result_handshake ((poisoned_incurAll_eq world race).trans sound)]
  simp only [isFull_incurAll_iff order sound stay, ← not_lt, ite_not]

theorem result_opened_incurAll {connection : Connection} (here : connection.session = id) :
    (world.incurAll race).result (.opened connection) =
      if (newcomers id race).length < world.places id then .ok ()
      else .error (.spaceFull id) := by
  have named := (order.incurAll sound race id).named
  subst here
  rw [result_opened ((poisoned_incurAll_eq world race).trans sound), named]
  simp only [isFull_incurAll_iff order sound stay, ← not_lt, ite_not]

/-- What becomes of a newcomer depends on how many came before. -/
theorem openedWith_incurAll (answer : Except SignalingError Unit) (incident : Incident) :
    (world.incurAll race).openedWith answer id incident =
      if (if (newcomers id race).length < world.places id then .ok ()
          else .error (.spaceFull id)) = answer then (incident.newcomer? id).toList
      else [] := by
  unfold openedWith
  cases found : incident.newcomer? id with
  | none => simp
  | some connection =>
      have here := (Incident.newcomer?_eq_some_iff.mp found).2
      rw [← result_opened_incurAll order sound stay here, Option.toList_some,
        List.filter_singleton]
      simp

end

theorem length_newcomer?_le (id : SessionId) (incident : Incident) :
    (incident.newcomer? id).toList.length ≤ 1 := by
  cases incident.newcomer? id <;> simp

section

variable (order : world.InOrder) (sound : world.core.poisoned = false)

include order sound

/-- Those who are taken in are the first, as many as there are places. -/
theorem along_openedWith_ok {race : List Incident} (stay : NobodyLeaves id race) :
    world.along (openedWith (.ok ()) id) race = (newcomers id race).take (world.places id) := by
  induction race using List.reverseRecOn with
  | nil => exact List.take_nil.symm
  | append_singleton past incident ih =>
      have stay' := stay.of_prefix (List.prefix_append past [incident])
      have single := length_newcomer?_le id incident
      rw [along_snoc, ih stay', openedWith_incurAll order sound stay', newcomers_append,
        List.take_append]
      congr 1
      show _ = (incident.newcomer? id).toList.take _
      by_cases room : (newcomers id past).length < world.places id
      · rw [if_pos room, if_pos rfl, List.take_of_length_le (by omega)]
      · rw [if_neg room, if_neg nofun, Nat.sub_eq_zero_of_le (not_lt.mp room), List.take_zero]

/-- All others are turned away. -/
theorem along_openedWith_spaceFull {race : List Incident} (stay : NobodyLeaves id race) :
    world.along (openedWith (.error (.spaceFull id)) id) race =
      (newcomers id race).drop (world.places id) := by
  induction race using List.reverseRecOn with
  | nil => exact List.drop_nil.symm
  | append_singleton past incident ih =>
      have stay' := stay.of_prefix (List.prefix_append past [incident])
      have single := length_newcomer?_le id incident
      rw [along_snoc, ih stay', openedWith_incurAll order sound stay', newcomers_append,
        List.drop_append]
      congr 1
      show _ = (incident.newcomer? id).toList.drop _
      by_cases room : (newcomers id past).length < world.places id
      · rw [if_pos room, if_neg nofun, List.drop_of_length_le (by omega)]
      · rw [if_neg room, if_pos rfl, Nat.sub_eq_zero_of_le (not_lt.mp room), List.drop_zero]

end

theorem newcomers_eq_nil {between : List Incident}
    (elsewhere : ∀ call, .call call ∈ between → call.session ≠ id) : newcomers id between = [] := by
  rw [newcomers, List.filterMap_eq_nil_iff]
  intro incident listed
  rw [Option.eq_none_iff_forall_ne_some]
  intro connection found
  obtain ⟨rfl, here⟩ := Incident.newcomer?_eq_some_iff.mp found
  exact elsewhere _ listed here

end World

/-! ## The race -/

/-- How a race for the places of a session goes. -/
structure FirstComeFirstServed (world : World Relay) (id : SessionId) (race : List Incident) :
    Prop where
  /-- Those who are taken in are the first to be opened, as many as there are places. -/
  taken : world.along (World.openedWith (.ok ()) id) race =
    (newcomers id race).take (world.places id)
  /-- All others are told that there is no place. -/
  turnedAway : world.along (World.openedWith (.error (.spaceFull id)) id) race =
    (newcomers id race).drop (world.places id)
  /-- Who is turned away leaves everything as it was, also what waits in the session. -/
  unchanged : ∀ past connection, past ++ [.call (.opened connection)] <+: race →
    connection.session = id → world.places id ≤ (newcomers id past).length →
      (world.incurAll past).after (.opened connection) = world.incurAll past
  /-- The second member is there from the moment on when the last place is taken, -/
  hasTwo : ∀ past, past <+: race →
    ((world.incurAll past).HasTwo id ↔ world.places id ≤ (newcomers id past).length)
  /-- and from that moment on handshakes are refused, and never before. -/
  handshake : ∀ past, past <+: race → (world.incurAll past).result (.handshake id) =
    if (newcomers id past).length < world.places id then .ok () else .error (.spaceFull id)
  /-- Whoever opens after its own admission is taken in if nothing was done for the session in
  between. -/
  admitted : ∀ past between connection,
    past ++ .call (.handshake id) :: (between ++ [.call (.opened connection)]) <+: race →
      connection.session = id → (∀ call, .call call ∈ between → call.session ≠ id) →
        (world.incurAll past).result (.handshake id) = .ok () →
          (world.incurAll (past ++ .call (.handshake id) :: between)).result
            (.opened connection) = .ok ()

/-- After any run, the places of a session go to those who open first, while nobody leaves. -/
theorem firstComeFirstServed_of_nobodyLeaves (configuration : PeerConfiguration)
    (run : List Incident) {id : SessionId} {race : List Incident}
    (stay : NobodyLeaves id race) :
    FirstComeFirstServed ((Relay.initial configuration).incurAll run) id race := by
  have sound := World.poisoned_incurAll configuration run
  have order := World.inOrder_incurAll configuration run
  generalize (Relay.initial configuration).incurAll run = world at sound order
  constructor
  case taken => exact World.along_openedWith_ok order sound stay
  case turnedAway => exact World.along_openedWith_spaceFull order sound stay
  case unchanged =>
    intro past connection front here none_left
    have stay' := stay.of_prefix ((List.prefix_append past _).trans front)
    have refused := World.result_opened_incurAll order sound stay' here
    rw [if_neg (not_lt.mpr none_left)] at refused
    exact Relay.world_of_error refused
  case hasTwo =>
    intro past front
    rw [← (order.incurAll sound past).isFull_iff,
      World.isFull_incurAll_iff order sound (stay.of_prefix front)]
  case handshake =>
    exact fun past front => World.result_handshake_incurAll order sound (stay.of_prefix front)
  case admitted =>
    intro past between connection front here elsewhere passed
    have first : past <+: race := (List.prefix_append past _).trans front
    have all : past ++ .call (.handshake id) :: between <+: race := by
      refine List.IsPrefix.trans ⟨[.call (.opened connection)], ?_⟩ front
      simp
    have same : newcomers id (past ++ .call (.handshake id) :: between) = newcomers id past := by
      rw [newcomers_append, show newcomers id (.call (.handshake id) :: between) =
        newcomers id between from rfl, World.newcomers_eq_nil elsewhere, List.append_nil]
    rw [World.result_handshake_incurAll order sound (stay.of_prefix first)] at passed
    rw [World.result_opened_incurAll order sound (stay.of_prefix all) here, same]
    exact passed

/-- A member waits with something to say. -/
def host : List Incident :=
  [.call (.opened (visitor 0 "room")), .call (.message (visitor 0 "room") (notice "1"))]

/-- Three are admitted while there is one place, and the last of them opens first; meanwhile
another session ends and a receiver is lost. -/
def rush : List Incident :=
  [.call (.handshake ⟨"room"⟩), .call (.handshake ⟨"room"⟩), .call (.opened (visitor 9 "hall")),
    .call (.handshake ⟨"room"⟩), .call (.opened (visitor 3 "room")),
    .call (.closed (visitor 9 "hall")), .call (.opened (visitor 1 "room")),
    .call (.message (visitor 0 "room") (notice "2")), .abandoned (visitor 3 "room").id,
    .call (.handshake ⟨"room"⟩), .call (.opened (visitor 2 "room"))]

theorem firstComeFirstServed_rush : NobodyLeaves ⟨"room"⟩ rush ∧
    FirstComeFirstServed ((Relay.initial default).incurAll host) ⟨"room"⟩ rush ∧
    ((Relay.initial default).incurAll host).along (World.openedWith (.ok ()) ⟨"room"⟩) rush =
      [visitor 3 "room"] := by
  have stay : NobodyLeaves ⟨"room"⟩ rush := by decide
  exact ⟨stay, firstComeFirstServed_of_nobodyLeaves default host stay, by decide +kernel⟩

end Rendezvous
