/-
# The ledger of notices

A ledger says of every notice that was handed in where it is: on the wire of one
connection, waiting in one session, or nowhere any more. It is kept beside a run of
incidents by moving postings, never by copying them, and it agrees with the world at
every moment, whatever the order of the calls. Of two notices of one sender the earlier
is ahead of the later on every wire: what waits was said by the only member there is, so
nothing can overtake it.
-/

import Rendezvous.Proofs.Incidents

namespace Rendezvous

open Function (update)

/-- A notice that was handed in, with the number of the incident that brought it. -/
structure Posting where
  number : Nat
  sender : Connection
  data : Payload
  deriving DecidableEq, Repr

/-- A posting as it waits in a session. -/
def Posting.entry (posting : Posting) : PendingEntry := ⟨posting.sender.id, posting.data⟩

/-- An incident brings a notice. -/
def Incident.Brings (incident : Incident) (sender : Connection) (data : Payload) : Prop :=
  ∃ text, incident = .call (.message sender text) ∧ Request.parse text = .ok (.notify data)

/-- A posting is one of the notices that a run has brought. -/
def Posting.HandedIn (posting : Posting) (run : List Incident) : Prop :=
  ∃ incident, run[posting.number]? = some incident ∧
    incident.Brings posting.sender posting.data

/-- Where the postings of a run are. -/
structure Ledger where
  /-- What waits in each session, the oldest first. -/
  waiting : SessionId → List Posting
  /-- What was put on each wire, the oldest first. -/
  delivered : ConnectionId → List Posting

/-- Where a posting may be. -/
inductive Whereabouts
  | wire (id : ConnectionId)
  | session (id : SessionId)
  | discarded
  deriving DecidableEq, Repr

theorem Posting.HandedIn.lt {posting : Posting} {run : List Incident}
    (handed : posting.HandedIn run) : posting.number < run.length := by
  obtain ⟨incident, found, -⟩ := handed
  exact (List.getElem?_eq_some_iff.mp found).1

theorem Posting.HandedIn.append {posting : Posting} {run : List Incident}
    (handed : posting.HandedIn run) (rest : List Incident) :
    posting.HandedIn (run ++ rest) := by
  have inside := handed.lt
  obtain ⟨incident, found, brings⟩ := handed
  refine ⟨incident, ?_, brings⟩
  rw [List.getElem?_append_left inside, found]

/-- The lists under all keys after more was put at the end of one of them. -/
def extended {κ α : Type} [DecidableEq κ] (lists : κ → List α) (key : κ) (more : List α) :
    κ → List α :=
  update lists key (lists key ++ more)

section

variable {κ α : Type} [DecidableEq κ] {lists : κ → List α} {key other : κ} {more : List α}

theorem extended_self : extended lists key more key = lists key ++ more :=
  Function.update_self ..

theorem extended_of_ne (ne : other ≠ key) : extended lists key more other = lists other :=
  Function.update_of_ne ne ..

theorem map_extended {β : Type} (f : α → β) :
    (extended lists key more other).map f =
      (lists other).map f ++ if other = key then more.map f else [] := by
  by_cases same : other = key
  · subst same
    rw [extended_self, List.map_append, if_pos rfl]
  · rw [extended_of_ne same, if_neg same, List.append_nil]

theorem mem_extended {element : α} : element ∈ extended lists key more other ↔
    element ∈ lists other ∨ other = key ∧ element ∈ more := by
  by_cases same : other = key
  · subst same
    simp [extended_self]
  · simp [extended_of_ne same, same]

/-- What is put at the end comes after all that was there. -/
theorem pairwise_extended {order : α → α → Prop} (before : (lists other).Pairwise order)
    (inside : more.Pairwise order)
    (across : ∀ earlier ∈ lists key, ∀ later ∈ more, order earlier later) :
    (extended lists key more other).Pairwise order := by
  by_cases same : other = key
  · subst same
    rw [extended_self]
    exact List.pairwise_append.mpr ⟨before, inside, across⟩
  · rwa [extended_of_ne same]

end

namespace Ledger

/-- The ledger before anything has happened. -/
def blank : Ledger := ⟨fun _ => [], fun _ => []⟩

/-- A posting waits in the session of its sender. -/
def wait (ledger : Ledger) (posting : Posting) : Ledger :=
  { ledger with waiting := extended ledger.waiting posting.sender.session [posting] }

/-- Postings are put on a wire. -/
def deliver (ledger : Ledger) (id : ConnectionId) (postings : List Posting) : Ledger :=
  { ledger with delivered := extended ledger.delivered id postings }

/-- Of what waits in a session, only a rest is kept. -/
def keepOnly (ledger : Ledger) (id : SessionId) (rest : List Posting) : Ledger :=
  { ledger with waiting := update ledger.waiting id rest }

theorem waiting_wait (ledger : Ledger) (posting : Posting) :
    (ledger.wait posting).waiting =
      extended ledger.waiting posting.sender.session [posting] := rfl

/-- The posting is found there. -/
def Finds (ledger : Ledger) (posting : Posting) : Whereabouts → Prop
  | .wire id => posting ∈ ledger.delivered id
  | .session id => posting ∈ ledger.waiting id
  | .discarded => (∀ id, posting ∉ ledger.delivered id) ∧ ∀ id, posting ∉ ledger.waiting id

/-- What one incident may do to a ledger: a new posting goes to one place, or what waits
in one session goes to one wire or is given up. -/
inductive Moves (before : Ledger) (number : Nat) (incident : Incident) : Ledger → Prop
  /-- Nothing is moved; a notice that comes is discarded. -/
  | still : Moves before number incident before
  /-- A notice waits. -/
  | kept {sender : Connection} {data : Payload} (brings : incident.Brings sender data) :
    Moves before number incident (before.wait ⟨number, sender, data⟩)
  /-- A notice goes to a wire while nothing of its sender waits. -/
  | passed {sender : Connection} {data : Payload} (brings : incident.Brings sender data)
    (first : ∀ earlier ∈ before.waiting sender.session, earlier.sender ≠ sender)
    (id : ConnectionId) :
    Moves before number incident (before.deliver id [⟨number, sender, data⟩])
  /-- All that waits in a session goes to the wire of a newcomer. -/
  | handedOver {newcomer : Connection} (opens : incident = .call (.opened newcomer)) :
    Moves before number incident ((before.deliver newcomer.id
      (before.waiting newcomer.session)).keepOnly newcomer.session [])
  /-- Some of what waits in a session is given up. -/
  | givenUp (id : SessionId) {rest : List Posting} (fewer : rest.Sublist (before.waiting id)) :
    Moves before number incident (before.keepOnly id rest)

/-- The ledger was kept along a run, by one move for each incident. -/
inductive Traces : List Incident → Ledger → Prop
  | blank : Traces [] blank
  | snoc {run : List Incident} {incident : Incident} {before after : Ledger}
    (traced : Traces run before) (moved : before.Moves run.length incident after) :
    Traces (run ++ [incident]) after

/-! ## What all moves keep -/

/-- The rules of a ledger. -/
structure Sound (run : List Incident) (ledger : Ledger) : Prop where
  /-- Whatever waits was handed in, by a connection of that session. -/
  waits : ∀ id, ∀ posting ∈ ledger.waiting id,
    posting.HandedIn run ∧ posting.sender.session = id
  arrived : ∀ id, ∀ posting ∈ ledger.delivered id, posting.HandedIn run
  one_wire : ∀ id other posting, posting ∈ ledger.delivered id →
    posting ∈ ledger.delivered other → id = other
  /-- What waits stands in the order in which it came. -/
  queued : ∀ id, (ledger.waiting id).Pairwise fun earlier later =>
    earlier.number < later.number
  /-- What one connection has sent to another stands in the order in which it came. -/
  in_order : ∀ id, (ledger.delivered id).Pairwise fun earlier later =>
    earlier.sender = later.sender → earlier.number < later.number
  /-- What waits was sent after all that has arrived from its sender. -/
  behind : ∀ id key, ∀ posting ∈ ledger.delivered id, ∀ later ∈ ledger.waiting key,
    posting.sender = later.sender → posting.number < later.number

variable {run : List Incident} {incident : Incident} {before after ledger : Ledger}

theorem sound_blank : blank.Sound run where
  waits _ _ listed := nomatch listed
  arrived _ _ listed := nomatch listed
  one_wire _ _ _ listed := nomatch listed
  queued _ := .nil
  in_order _ := .nil
  behind _ _ _ listed := nomatch listed

theorem waiting_keepOnly_self (id : SessionId) (rest : List Posting) :
    (ledger.keepOnly id rest).waiting id = rest :=
  Function.update_self ..

theorem waiting_keepOnly_of_ne {id key : SessionId} (ne : key ≠ id) (rest : List Posting) :
    (ledger.keepOnly id rest).waiting key = ledger.waiting key :=
  Function.update_of_ne ne ..

theorem waiting_keepOnly_sublist {id : SessionId} {rest : List Posting}
    (fewer : rest.Sublist (ledger.waiting id)) (key : SessionId) :
    ((ledger.keepOnly id rest).waiting key).Sublist (ledger.waiting key) := by
  by_cases same : key = id
  · subst same
    rwa [waiting_keepOnly_self]
  · have unchanged : (ledger.keepOnly id rest).waiting key = ledger.waiting key :=
      waiting_keepOnly_of_ne same rest
    exact unchanged.symm ▸ List.Sublist.refl _

namespace Sound

section

variable (sound : before.Sound run)

include sound

/-- What has arrived does not wait. -/
theorem not_waiting {id : ConnectionId} {posting : Posting}
    (arrived : posting ∈ before.delivered id) (key : SessionId) :
    posting ∉ before.waiting key := fun waits =>
  Nat.lt_irrefl _ (sound.behind id key posting arrived posting waits rfl)

/-- The rules hold of a longer run. -/
theorem append (rest : List Incident) : before.Sound (run ++ rest) where
  waits id posting listed :=
    ⟨(sound.waits id posting listed).1.append rest, (sound.waits id posting listed).2⟩
  arrived id posting listed := (sound.arrived id posting listed).append rest
  one_wire := sound.one_wire
  queued := sound.queued
  in_order := sound.in_order
  behind := sound.behind

theorem keepOnly {id : SessionId} {rest : List Posting}
    (fewer : rest.Sublist (before.waiting id)) : (before.keepOnly id rest).Sound run := by
  have less := waiting_keepOnly_sublist fewer
  constructor
  case waits => exact fun key posting listed => sound.waits key posting ((less key).subset listed)
  case arrived => exact sound.arrived
  case one_wire => exact sound.one_wire
  case queued => exact fun key => (sound.queued key).sublist (less key)
  case in_order => exact sound.in_order
  case behind =>
    exact fun wire key posting listed later waits =>
      sound.behind wire key posting listed later ((less key).subset waits)

/-- All that waits in a session may go to one wire. -/
theorem handedOver (newcomer : Connection) :
    ((before.deliver newcomer.id (before.waiting newcomer.session)).keepOnly
      newcomer.session []).Sound run := by
  have others {key : SessionId} {posting : Posting}
      (listed : posting ∈ ((before.deliver newcomer.id
        (before.waiting newcomer.session)).keepOnly newcomer.session []).waiting key) :
      key ≠ newcomer.session ∧ posting ∈ before.waiting key := by
    refine ⟨?_, (waiting_keepOnly_sublist (List.nil_sublist _) key).subset listed⟩
    rintro rfl
    rw [waiting_keepOnly_self] at listed
    cases listed
  constructor
  case waits => exact fun key posting listed => sound.waits key posting (others listed).2
  case arrived =>
    intro id posting listed
    rcases mem_extended.mp listed with earlier | ⟨-, waited⟩
    · exact sound.arrived id posting earlier
    · exact (sound.waits _ posting waited).1
  case one_wire =>
    intro id other posting here there
    rcases mem_extended.mp here with earlier | ⟨rfl, waited⟩ <;>
      rcases mem_extended.mp there with earlier' | ⟨rfl, waited'⟩
    · exact sound.one_wire id other posting earlier earlier'
    · exact absurd waited' (sound.not_waiting earlier _)
    · exact absurd waited (sound.not_waiting earlier' _)
    · rfl
  case queued => exact (sound.keepOnly (List.nil_sublist _)).queued
  case in_order =>
    intro id
    refine pairwise_extended (sound.in_order id) ?_ (sound.behind _ _)
    apply (sound.queued newcomer.session).imp
    intro earlier later less _
    exact less
  case behind =>
    intro id key posting listed later waits same
    obtain ⟨other, waits⟩ := others waits
    rcases mem_extended.mp listed with earlier | ⟨-, waited⟩
    · exact sound.behind id key posting earlier later waits same
    · -- What has waited and what still waits were said in two sessions.
      have home := (sound.waits _ posting waited).2
      rw [same, (sound.waits key later waits).2] at home
      exact absurd home other

end

section

variable {sender : Connection} {data : Payload} (brings : incident.Brings sender data)

include brings

theorem handedIn_new : Posting.HandedIn ⟨run.length, sender, data⟩ (run ++ [incident]) :=
  ⟨incident, List.getElem?_concat_length, brings⟩

theorem kept (sound : before.Sound run) :
    (before.wait ⟨run.length, sender, data⟩).Sound (run ++ [incident]) := by
  have longer := sound.append [incident]
  constructor
  case waits =>
    intro key posting listed
    rcases mem_extended.mp listed with earlier | ⟨rfl, last⟩
    · exact longer.waits key posting earlier
    · obtain rfl := List.mem_singleton.mp last
      exact ⟨handedIn_new brings, rfl⟩
  case arrived => exact longer.arrived
  case one_wire => exact sound.one_wire
  case queued =>
    intro key
    apply pairwise_extended (sound.queued key) (List.pairwise_singleton _ _)
    intro earlier listed later last
    obtain rfl := List.mem_singleton.mp last
    exact (sound.waits _ earlier listed).1.lt
  case in_order => exact sound.in_order
  case behind =>
    intro id key posting listed later waits same
    rcases mem_extended.mp waits with earlier | ⟨-, last⟩
    · exact sound.behind id key posting listed later earlier same
    · obtain rfl := List.mem_singleton.mp last
      exact (sound.arrived id posting listed).lt

theorem passed (sound : before.Sound run)
    (first : ∀ earlier ∈ before.waiting sender.session, earlier.sender ≠ sender)
    (id : ConnectionId) :
    (before.deliver id [⟨run.length, sender, data⟩]).Sound (run ++ [incident]) := by
  have longer := sound.append [incident]
  -- The number of the new posting is greater than all that were given before.
  have fresh {key : ConnectionId} :
      ⟨run.length, sender, data⟩ ∉ before.delivered key := fun listed =>
    Nat.lt_irrefl _ (sound.arrived key _ listed).lt
  constructor
  case waits => exact longer.waits
  case arrived =>
    intro key posting listed
    rcases mem_extended.mp listed with earlier | ⟨-, last⟩
    · exact longer.arrived key posting earlier
    · obtain rfl := List.mem_singleton.mp last
      exact handedIn_new brings
  case one_wire =>
    intro key other posting here there
    rcases mem_extended.mp here with earlier | ⟨rfl, last⟩ <;>
      rcases mem_extended.mp there with earlier' | ⟨rfl, last'⟩
    · exact sound.one_wire key other posting earlier earlier'
    · exact absurd (List.mem_singleton.mp last' ▸ earlier) fresh
    · exact absurd (List.mem_singleton.mp last ▸ earlier') fresh
    · rfl
  case queued => exact sound.queued
  case in_order =>
    intro key
    apply pairwise_extended (sound.in_order key) (List.pairwise_singleton _ _)
    intro earlier listed later last _
    obtain rfl := List.mem_singleton.mp last
    exact (sound.arrived _ earlier listed).lt
  case behind =>
    intro wire key posting listed later waits same
    rcases mem_extended.mp listed with earlier | ⟨-, last⟩
    · exact sound.behind wire key posting earlier later waits same
    · obtain rfl := List.mem_singleton.mp last
      have home := (sound.waits key later waits).2
      rw [← same] at home
      exact absurd same.symm (first later (home ▸ waits))

end

end Sound

theorem Traces.sound (traced : ledger.Traces run) : ledger.Sound run := by
  induction traced with
  | blank => exact sound_blank
  | snoc _ moved ih =>
      cases moved with
      | still => exact ih.append _
      | kept brings => exact .kept brings ih
      | passed brings first id => exact .passed brings ih first id
      | handedOver opens => exact (ih.handedOver _).append _
      | givenUp id fewer => exact (ih.keepOnly fewer).append _

end Ledger

end Rendezvous
