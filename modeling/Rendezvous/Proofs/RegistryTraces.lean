/-
# A registry is a family of sessions

A registry is used through three kinds of operations: a session is entered, which brings it
into being where it is not, it is removed if it has no members, and something is done in
it. However these are mixed for any number of identifiers, each identifier has a session of
its own, which is what was done in it since it came into being and nothing else: neither
what is done under other identifiers nor what was done before a removal has any part in it,
although a session may be removed while something waits in it.

What goes on under one identifier is a slot, which is empty or holds a session. A registry
is shown to be one slot for each identifier, side by side, and all that is said of registries
is then read off a single slot.
-/

import Mathlib.Data.Finset.Card
import Rendezvous.Proofs.SessionTraces
import Rendezvous.Registry

namespace Rendezvous

namespace Directory

variable {κ α : Type} [DecidableEq κ]

/-- A directory has as many entries as there are keys under which something is found. -/
theorem size_eq_card (directory : Directory κ α) {keys : List κ}
    (known : ∀ key, key ∈ keys ↔ (directory.get? key).isSome = true) :
    directory.size = keys.toFinset.card := by
  have same : keys.toFinset = (directory.entries.map Prod.fst).toFinset := by
    ext key
    rw [List.mem_toFinset, List.mem_toFinset, known, Option.isSome_iff_ne_none, ne_eq, get?,
      lookup_eq_none_iff_not_mem, not_not]
  rw [same, List.toFinset_card_of_nodup directory.distinct, List.length_map, size]

end Directory

namespace Registry

/-- What can be done to a registry. -/
inductive Operation
  | getOrCreate (id : SessionId)
  | removeIfEmpty (id : SessionId)
  /-- Something is done in the session of an identifier, if it exists. -/
  | within (id : SessionId) (operation : Session.Operation)
  deriving DecidableEq, Repr

/-- What a registry answers. -/
inductive Answer
  /-- The session that was entered. -/
  | entered (session : Session)
  | removed (isRemoved : Bool)
  /-- What the session answers, if there is one. -/
  | answered (answer? : Option Session.Answer)
  deriving Repr

/-- The identifier that an operation is about. -/
def Operation.id : Operation → SessionId
  | .getOrCreate id | .removeIfEmpty id | .within id _ => id

/-- Whether an operation is about an identifier. -/
def Operation.isFor (id : SessionId) (operation : Operation) : Bool := operation.id = id

/-- The part of a trace that is about an identifier. -/
def partFor (id : SessionId) (trace : List Operation) : List Operation :=
  trace.filter (Operation.isFor id)

/-- What an operation is answered and what it makes of a registry. -/
def perform (registry : Registry) : Operation → Answer × Registry
  | .getOrCreate id =>
    let found := getOrCreate registry id
    (.entered (session found id), found)
  | .removeIfEmpty id =>
    let (isRemoved, rest) := removeIfEmpty registry id
    (.removed isRemoved, rest)
  | .within id operation =>
    (.answered ((registry.get? id).map fun session => session.answer operation),
      modify registry id fun session => (session.perform operation).2)

/-- What an operation is answered. -/
def answer (registry : Registry) (operation : Operation) : Answer :=
  (perform registry operation).1

/-- A new registry after a trace. -/
def after (trace : List Operation) : Registry := afterwards perform .empty trace

/-- What was done to a new registry along a trace. -/
def done (trace : List Operation) : List (Deed Operation Answer) := deeds perform .empty trace

theorem after_append (past later : List Operation) :
    after (past ++ later) = afterwards perform (after past) later :=
  afterwards_append perform .empty past later

theorem after_snoc (past : List Operation) (operation : Operation) :
    after (past ++ [operation]) = (perform (after past) operation).2 :=
  after_append past [operation]

theorem done_snoc (past : List Operation) (operation : Operation) :
    done (past ++ [operation]) = done past ++ [⟨operation, answer (after past) operation⟩] :=
  deeds_snoc perform .empty past operation

/-- Those deeds that are about an identifier. -/
def doneFor (id : SessionId) (past : List (Deed Operation Answer)) :
    List (Deed Operation Answer) :=
  past.filter fun deed => deed.operation.isFor id

theorem partFor_cons (id : SessionId) (operation : Operation) (rest : List Operation) :
    partFor id (operation :: rest) =
      if operation.id = id then operation :: partFor id rest else partFor id rest := by
  simp only [partFor, List.filter_cons, Operation.isFor, decide_eq_true_iff]

theorem partFor_partFor (id : SessionId) (trace : List Operation) :
    partFor id (partFor id trace) = partFor id trace := by
  simp [partFor]

theorem doneFor_cons (id : SessionId) (deed : Deed Operation Answer)
    (rest : List (Deed Operation Answer)) : doneFor id (deed :: rest) =
      if deed.operation.id = id then deed :: doneFor id rest else doneFor id rest := by
  simp only [doneFor, List.filter_cons, Operation.isFor, decide_eq_true_iff]

/-! ## What a trace tells -/

/-- Whether a deed removes the session of an identifier. -/
def removes (id : SessionId) (deed : Deed Operation Answer) : Bool :=
  match deed.operation, deed.answer with
  | .removeIfEmpty other, .removed true => other = id
  | _, _ => false

/-- The identifier whose session is there after a deed, created by it or before. -/
def enters? (deed : Deed Operation Answer) : Option SessionId :=
  match deed.operation with
  | .getOrCreate id => some id
  | .removeIfEmpty _ | .within _ _ => none

/-- The identifiers whose sessions were created and have not been removed since. -/
def standing (past : List (Deed Operation Answer)) : List SessionId :=
  lasting enters? removes past

/-- What was done in a session since it came into being, after one deed more. -/
def lifeAfter (id : SessionId) (life : Option (List Session.Operation))
    (deed : Deed Operation Answer) : Option (List Session.Operation) :=
  if removes id deed then none
  else
    match deed.operation with
    | .getOrCreate other => if other = id then some (life.getD []) else life
    | .within other operation => if other = id then life.map (· ++ [operation]) else life
    | .removeIfEmpty _ => life

/-- What was done in the session of an identifier since it came into being; nothing is its
life where it does not exist. -/
def life (id : SessionId) (past : List (Deed Operation Answer)) :
    Option (List Session.Operation) :=
  past.foldl (lifeAfter id) none

theorem life_snoc (id : SessionId) (past : List (Deed Operation Answer))
    (deed : Deed Operation Answer) :
    life id (past ++ [deed]) = lifeAfter id (life id past) deed :=
  List.foldl_append

theorem standing_snoc (past : List (Deed Operation Answer)) (deed : Deed Operation Answer) :
    standing (past ++ [deed]) =
      ((standing past).filter fun id => !removes id deed) ++ (enters? deed).toList :=
  lasting_snoc enters? removes past deed

/-! ## One slot -/

/-- What an operation is answered by the slot of its identifier, and what it makes of it. -/
def turn (slot : Option Session) : Operation → Answer × Option Session
  | .getOrCreate id => (.entered (slot.getD (.new id)), some (slot.getD (.new id)))
  | .removeIfEmpty _ =>
    (.removed (slot.any Session.isEmpty), slot.filter fun session => !session.isEmpty)
  | .within _ operation =>
    (.answered (slot.map fun session => session.answer operation),
      slot.map fun session => (session.perform operation).2)

theorem get?_modify (registry : Registry) (id other : SessionId) (change : Session → Session) :
    (modify registry id change).get? other =
      if other = id then (registry.get? other).map change else registry.get? other := by
  unfold modify
  cases found : registry.get? id with
  | none =>
      by_cases same : other = id
      · simp [same, found]
      · simp [same]
  | some session =>
      by_cases same : other = id
      · simp [same, found]
      · simp [same, Directory.get?_set_of_ne]

/-- A registry answers what the slot of the identifier answers, -/
theorem answer_eq_turn (registry : Registry) (operation : Operation) :
    answer registry operation = (turn (registry.get? operation.id) operation).1 := by
  cases operation with
  | getOrCreate id => simp [answer, perform, turn, Operation.id, session, get?_getOrCreate]
  | removeIfEmpty id => simp [answer, perform, turn, Operation.id, removeIfEmpty_fst, isIdle]
  | within id operation => rfl

/-- that slot takes its turn, -/
theorem get?_perform_here (registry : Registry) (operation : Operation) :
    (perform registry operation).2.get? operation.id =
      (turn (registry.get? operation.id) operation).2 := by
  cases operation with
  | getOrCreate id => exact Directory.get?_set_self registry id _
  | removeIfEmpty id =>
      rw [perform, get?_removeIfEmpty, removeIfEmpty_fst, isIdle, Operation.id]
      cases registry.get? id with
      | none => simp [turn]
      | some session => cases empty : session.isEmpty <;> simp [turn, empty, Option.filter]
  | within id operation => rw [perform, get?_modify, Operation.id, if_pos rfl, turn]

/-- and no other slot takes part. -/
theorem get?_perform_elsewhere (registry : Registry) {operation : Operation} {id : SessionId}
    (elsewhere : operation.id ≠ id) :
    (perform registry operation).2.get? id = registry.get? id := by
  cases operation with
  | getOrCreate other => exact Directory.get?_set_of_ne registry elsewhere.symm _
  | removeIfEmpty other =>
      rw [perform, get?_removeIfEmpty, if_neg fun both => elsewhere both.1.symm]
  | within other operation =>
      have apart : id ≠ other := elsewhere.symm
      rw [perform, get?_modify, if_neg apart]

/-- Under each identifier a trace does what its own part does to one slot. -/
theorem get?_afterwards (registry : Registry) (trace : List Operation) (id : SessionId) :
    (afterwards perform registry trace).get? id =
      afterwards turn (registry.get? id) (partFor id trace) := by
  induction trace generalizing registry with
  | nil => rfl
  | cons operation rest ih =>
      rw [afterwards_cons, ih, partFor_cons]
      split
      · next here => rw [← here, get?_perform_here, afterwards_cons]
      · next elsewhere => rw [get?_perform_elsewhere registry elsewhere]

theorem doneFor_deeds (registry : Registry) (trace : List Operation) (id : SessionId) :
    doneFor id (deeds perform registry trace) =
      deeds turn (registry.get? id) (partFor id trace) := by
  induction trace generalizing registry with
  | nil => rfl
  | cons operation rest ih =>
      rw [deeds, doneFor_cons, ih, partFor_cons]
      split
      · next here =>
        rw [deeds, ← here, get?_perform_here, ← answer_eq_turn]
        rfl
      · next elsewhere => rw [get?_perform_elsewhere registry elsewhere]

/-- All that was done along the part of a trace that is about an identifier is. -/
theorem doneFor_done_partFor (trace : List Operation) (id : SessionId) :
    doneFor id (done (partFor id trace)) = done (partFor id trace) := by
  apply List.filter_eq_self.mpr
  intro deed listed
  have among : deed.operation ∈ partFor id trace := by
    rw [← map_operation_deeds perform .empty (partFor id trace)]
    exact List.mem_map_of_mem listed
  exact (List.mem_filter.mp among).2

/-- What is done under an identifier is done alike where nothing else is done. -/
theorem doneFor_done (trace : List Operation) (id : SessionId) :
    doneFor id (done trace) = done (partFor id trace) := by
  rw [← doneFor_done_partFor, done, done, doneFor_deeds, doneFor_deeds, partFor_partFor]

theorem get?_after_partFor (trace : List Operation) (id : SessionId) :
    (after trace).get? id = (after (partFor id trace)).get? id := by
  rw [after, after, get?_afterwards, get?_afterwards, partFor_partFor]

/-! ## Lives -/

theorem lifeAfter_elsewhere {id : SessionId} {deed : Deed Operation Answer}
    (elsewhere : deed.operation.id ≠ id) (life : Option (List Session.Operation)) :
    lifeAfter id life deed = life := by
  obtain ⟨operation, answer⟩ := deed
  cases operation with
  | getOrCreate other | within other operation =>
      have apart : other ≠ id := elsewhere
      simp [lifeAfter, removes, apart]
  | removeIfEmpty other =>
      have apart : other ≠ id := elsewhere
      have kept : removes id ⟨.removeIfEmpty other, answer⟩ = false := by
        unfold removes
        split <;> simp_all
      simp [lifeAfter, kept]

/-- A slot that holds what was done in a life goes on with it. -/
theorem turn_life (operation : Operation) (life : Option (List Session.Operation)) :
    (turn (life.map (Session.after operation.id)) operation).2 =
      (lifeAfter operation.id life
        ⟨operation, (turn (life.map (Session.after operation.id)) operation).1⟩).map
          (Session.after operation.id) := by
  cases operation with
  | getOrCreate id =>
      cases life with
      | none => simp [turn, lifeAfter, removes, Operation.id, Session.after]
      | some past => simp [turn, lifeAfter, removes, Operation.id]
  | removeIfEmpty id =>
      cases life with
      | none => rfl
      | some past =>
          cases empty : (Session.after id past).isEmpty <;>
            simp [turn, lifeAfter, removes, Operation.id, empty, Option.filter]
  | within id operation =>
      cases life with
      | none => simp [turn, lifeAfter, removes, Operation.id]
      | some past => simp [turn, lifeAfter, removes, Operation.id, Session.after_snoc]

/-- The session of an identifier is what was done in it in its life. -/
theorem get?_after (trace : List Operation) (id : SessionId) :
    (after trace).get? id = (life id (done trace)).map (Session.after id) := by
  induction trace using List.reverseRecOn with
  | nil => rfl
  | append_singleton past operation ih =>
      rw [after_snoc, done_snoc, life_snoc]
      by_cases here : operation.id = id
      · subst here
        rw [get?_perform_here, answer_eq_turn, ih, turn_life]
      · rw [get?_perform_elsewhere _ here, lifeAfter_elsewhere here, ih]

/-- A life goes on that is not ended, and one begins where a session is entered. -/
theorem isSome_lifeAfter (id : SessionId) (life : Option (List Session.Operation))
    (deed : Deed Operation Answer) : (lifeAfter id life deed).isSome = true ↔
      (life.isSome = true ∧ removes id deed = false) ∨ enters? deed = some id := by
  obtain ⟨operation, answer⟩ := deed
  cases operation with
  | getOrCreate other => by_cases same : other = id <;> simp [lifeAfter, removes, enters?, same]
  | within other operation =>
      by_cases same : other = id <;> simp [lifeAfter, removes, enters?, same]
  | removeIfEmpty other =>
      cases gone : removes id ⟨.removeIfEmpty other, answer⟩ <;> simp [lifeAfter, enters?, gone]

/-- An identifier stands while its life lasts. -/
theorem mem_standing_iff (past : List (Deed Operation Answer)) (id : SessionId) :
    id ∈ standing past ↔ (life id past).isSome = true := by
  induction past using List.reverseRecOn with
  | nil => exact iff_of_false List.not_mem_nil nofun
  | append_singleton past deed ih =>
      rw [standing_snoc, life_snoc, isSome_lifeAfter, List.mem_append, List.mem_filter, ih,
        Option.mem_toList, Bool.not_eq_true']

/-- No session has more than two members, so one is full when it has two. -/
theorem isFull_after_iff (trace : List Operation) (id : SessionId) :
    isFull (after trace) id = true ↔
      ∃ session, (after trace).get? id = some session ∧ session.members.length = 2 := by
  rw [Registry.isFull, get?_after]
  cases life id (done trace) with
  | none => simp
  | some past =>
      have most := Session.length_members_after_le id past
      rw [Option.map_some, Option.any_some, Session.isFull, Session.capacity, decide_eq_true_iff]
      simp only [Option.some.injEq, exists_eq_left']
      omega

/-! ## Removals -/

theorem answer_removeIfEmpty (registry : Registry) (id : SessionId) :
    answer registry (.removeIfEmpty id) = .removed (isIdle registry id) := by
  rw [answer, perform, ← removeIfEmpty_fst]

/-- A session can be removed where it exists and has no members, whatever waits in it. -/
theorem isIdle_iff (registry : Registry) (id : SessionId) : isIdle registry id = true ↔
    ∃ session, registry.get? id = some session ∧ session.members = [] := by
  unfold isIdle Session.isEmpty
  cases registry.get? id <;> simp

/-- What is not removed stays as it is, with all else. -/
theorem perform_removeIfEmpty_of_not_isIdle {registry : Registry} {id : SessionId}
    (busy : isIdle registry id = false) : (perform registry (.removeIfEmpty id)).2 = registry := by
  simp [perform, removeIfEmpty, busy]

theorem get?_of_isIdle {registry : Registry} {id : SessionId} (idle : isIdle registry id = true) :
    (perform registry (.removeIfEmpty id)).2.get? id = none := by
  simp [perform, removeIfEmpty, idle]

/-- There is nothing to be removed after a removal. -/
theorem not_isIdle_removeIfEmpty (registry : Registry) (id : SessionId) :
    isIdle (perform registry (.removeIfEmpty id)).2 id = false := by
  cases idle : isIdle registry id with
  | false => rw [perform_removeIfEmpty_of_not_isIdle idle, idle]
  | true => rw [isIdle, get?_of_isIdle idle, Option.any_none]

/-! ## The law of registries -/

/-- How a registry goes on after a trace. -/
structure FamilyOfSessions (trace : List Operation) : Prop where
  /-- The session of an identifier is what was done in it since it came into being. -/
  session : ∀ id, (after trace).get? id = (life id (done trace)).map (Session.after id)
  /-- Whoever enters finds the session that is there, or else a new one. -/
  entered : ∀ id, answer (after trace) (.getOrCreate id) =
    .entered (((after trace).get? id).getD (.new id))
  within : ∀ id operation, answer (after trace) (.within id operation) =
    .answered (((after trace).get? id).map fun session => session.answer operation)
  /-- Under each identifier everything is as if there were no other. -/
  alone : ∀ id, doneFor id (done trace) = done (partFor id trace) ∧
    (after trace).get? id = (after (partFor id trace)).get? id
  /-- A session is removed just where it exists and has no members, -/
  removed : ∀ id, answer (after trace) (.removeIfEmpty id) = .removed true ↔
    ∃ session, (after trace).get? id = some session ∧ session.members = []
  /-- nothing changes where it is not removed, -/
  kept : ∀ id, answer (after trace) (.removeIfEmpty id) ≠ .removed true →
    answer (after trace) (.removeIfEmpty id) = .removed false ∧
      after (trace ++ [.removeIfEmpty id]) = after trace
  /-- and nothing when it is tried again. -/
  repeated : ∀ id, answer (after (trace ++ [.removeIfEmpty id])) (.removeIfEmpty id) =
      .removed false ∧
    after (trace ++ [.removeIfEmpty id] ++ [.removeIfEmpty id]) =
      after (trace ++ [.removeIfEmpty id])
  /-- After a removal everything is under the identifier as if nothing had been before. -/
  forgotten : ∀ id later, answer (after trace) (.removeIfEmpty id) = .removed true →
    doneFor id (deeds perform (after (trace ++ [.removeIfEmpty id])) later) =
        doneFor id (done later) ∧
      (after (trace ++ [.removeIfEmpty id] ++ later)).get? id = (after later).get? id
  isFull : ∀ id, isFull (after trace) id = true ↔
    ∃ session, (after trace).get? id = some session ∧ session.members.length = 2
  /-- What is counted are the identifiers that were created and not removed since. -/
  size : (after trace).size = (standing (done trace)).toFinset.card

/-- After every trace a registry is a family of sessions of their own. -/
theorem sessions_stand_alone (trace : List Operation) : FamilyOfSessions trace := by
  have lives := get?_after trace
  constructor
  case session => exact lives
  case entered => exact fun id => answer_eq_turn (after trace) (.getOrCreate id)
  case within => exact fun id operation => rfl
  case alone =>
    intro id
    exact ⟨doneFor_done trace id, get?_after_partFor trace id⟩
  case removed =>
    intro id
    rw [answer_removeIfEmpty, ← isIdle_iff]
    simp
  case kept =>
    intro id other
    rw [answer_removeIfEmpty] at other ⊢
    have busy : isIdle (after trace) id = false := by simpa using other
    rw [busy, after_snoc]
    exact ⟨rfl, perform_removeIfEmpty_of_not_isIdle busy⟩
  case repeated =>
    intro id
    have busy : isIdle (after (trace ++ [.removeIfEmpty id])) id = false := by
      rw [after_snoc]
      exact not_isIdle_removeIfEmpty _ id
    constructor
    · rw [answer_removeIfEmpty, busy]
    · rw [after_snoc (trace ++ [_])]
      exact perform_removeIfEmpty_of_not_isIdle busy
  case forgotten =>
    intro id later gone
    have idle : isIdle (after trace) id = true := by
      rw [answer_removeIfEmpty] at gone
      injection gone
    have absent : (after (trace ++ [.removeIfEmpty id])).get? id = none := by
      rw [after_snoc]
      exact get?_of_isIdle idle
    constructor
    · rw [done, doneFor_deeds, doneFor_deeds, absent]
      rfl
    · rw [after_append, get?_afterwards, absent, after, get?_afterwards]
      rfl
  case isFull => exact isFull_after_iff trace
  case size =>
    apply Directory.size_eq_card
    intro id
    rw [mem_standing_iff, lives, Option.isSome_map]

/-- What waits in a session when it is removed is not found in the one that comes after it. -/
example : (after [.getOrCreate ⟨"room"⟩, .within ⟨"room"⟩ (.enqueue ⟨0, "stranger"⟩ []),
    .removeIfEmpty ⟨"room"⟩, .getOrCreate ⟨"room"⟩]).get? ⟨"room"⟩ =
      some (Session.new ⟨"room"⟩) := by
  decide

end Registry

end Rendezvous
