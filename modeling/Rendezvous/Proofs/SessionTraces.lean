/-
# What a session is, told by its trace

A session may be used in any way: connections are attached and let go any number of times,
the same one twice over, and payloads may be left behind by senders that are no members.
Whatever was done, its members are those that were taken in and have not been let go since,
and what waits is what was left behind and has neither been handed over nor withdrawn with
its sender since. Nothing else of the past is in a session.
-/

import Rendezvous.Proofs.Deeds
import Rendezvous.Session

namespace Rendezvous.Session

/-- What can be done to a session. -/
inductive Operation
  | attach (connection : Connection)
  | detach (id : ConnectionId)
  | enqueue (sender : ConnectionId) (payload : Payload)
  | drainAll
  deriving DecidableEq, Repr

/-- What a session answers. -/
inductive Answer
  | attached (result : Except SignalingError Unit)
  | drained (payloads : List Payload)
  | done
  deriving Repr

/-- What an operation is answered and what it makes of a session. -/
def perform (session : Session) : Operation → Answer × Session
  | .attach connection =>
    match session.attach connection with
    | .ok joined => (.attached (.ok ()), joined)
    | .error error => (.attached (.error error), session)
  | .detach id => (.done, session.detach id)
  | .enqueue sender payload => (.done, session.enqueue sender payload)
  | .drainAll => (.drained session.drainAll.1, session.drainAll.2)

/-- What an operation is answered. -/
def answer (session : Session) (operation : Operation) : Answer :=
  (session.perform operation).1

/-- A connection is taken in where there are fewer than two, and otherwise nothing changes. -/
theorem perform_attach (session : Session) (connection : Connection) :
    session.perform (.attach connection) =
      if session.members.length < 2 then
        (.attached (.ok ()), { session with members := session.members ++ [connection] })
      else (.attached (.error (.spaceFull session.id)), session) := by
  by_cases room : session.members.length < 2
  · have notFull : session.isFull = false := decide_eq_false (Nat.not_le.mpr room)
    simp only [perform, attach_of_not_isFull notFull, if_pos room]
  · have full : session.isFull = true := decide_eq_true (Nat.not_lt.mp room)
    simp only [perform, attach_of_isFull full, if_neg room]

/-- A new session after a trace. -/
def after (id : SessionId) (trace : List Operation) : Session :=
  afterwards perform (new id) trace

/-- What was done to a new session along a trace. -/
def done (id : SessionId) (trace : List Operation) : List (Deed Operation Answer) :=
  deeds perform (new id) trace

theorem after_snoc (id : SessionId) (past : List Operation) (operation : Operation) :
    after id (past ++ [operation]) = ((after id past).perform operation).2 :=
  afterwards_snoc perform (new id) past operation

theorem done_snoc (id : SessionId) (past : List Operation) (operation : Operation) :
    done id (past ++ [operation]) =
      done id past ++ [⟨operation, (after id past).answer operation⟩] :=
  deeds_snoc perform (new id) past operation

/-! ## What a trace tells -/

namespace Operation

/-- What an operation leaves behind. -/
def leaves? : Operation → Option PendingEntry
  | .enqueue sender payload => some ⟨sender, payload⟩
  | .attach _ | .detach _ | .drainAll => none

/-- Whether an operation hands over what was left behind, or withdraws it with its
sender. -/
def clears (entry : PendingEntry) : Operation → Bool
  | .drainAll => true
  | .detach id => entry.sender = id
  | .attach _ | .enqueue _ _ => false

/-- Whether an operation lets a connection go. -/
def letsGo (connection : Connection) : Operation → Bool
  | .detach id => connection.id = id
  | .attach _ | .enqueue _ _ | .drainAll => false

end Operation

/-- The connection that is taken in with a deed. -/
def takenIn? (deed : Deed Operation Answer) : Option Connection :=
  match deed.operation, deed.answer with
  | .attach connection, .attached (.ok ()) => some connection
  | _, _ => none

/-- What was left behind along a trace and has neither been handed over nor withdrawn
since, the oldest first. -/
def outstanding (trace : List Operation) : List PendingEntry :=
  lasting Operation.leaves? Operation.clears trace

/-- The connections that were taken in and have not been let go since, in the order in which
they came. -/
def present (past : List (Deed Operation Answer)) : List Connection :=
  lasting takenIn? (fun connection deed => deed.operation.letsGo connection) past

theorem outstanding_snoc (past : List Operation) (operation : Operation) :
    outstanding (past ++ [operation]) =
      ((outstanding past).filter fun entry => !operation.clears entry) ++
        operation.leaves?.toList :=
  lasting_snoc Operation.leaves? Operation.clears past operation

theorem present_snoc (past : List (Deed Operation Answer)) (deed : Deed Operation Answer) :
    present (past ++ [deed]) =
      ((present past).filter fun connection => !deed.operation.letsGo connection) ++
        (takenIn? deed).toList :=
  lasting_snoc takenIn? _ past deed

/-! ## One operation more -/

/-- An operation does to a session what it does to what its trace tells. -/
theorem perform_snd (session : Session) (operation : Operation) :
    (session.perform operation).2 =
      ⟨session.id,
        (session.members.filter fun member => !operation.letsGo member) ++
          (takenIn? ⟨operation, session.answer operation⟩).toList,
        (session.pending.filter fun entry => !operation.clears entry) ++
          operation.leaves?.toList⟩ := by
  unfold answer
  cases operation with
  | attach connection =>
      rw [perform_attach]
      split <;> simp [takenIn?, Operation.letsGo, Operation.clears, Operation.leaves?]
  | detach gone | enqueue sender payload | drainAll =>
      simp [perform, detach, enqueue, drainAll, takenIn?, Operation.letsGo, Operation.clears,
        Operation.leaves?]

/-- A session is what its trace tells. -/
theorem after_eq (id : SessionId) (trace : List Operation) :
    after id trace = ⟨id, present (done id trace), outstanding trace⟩ := by
  induction trace using List.reverseRecOn with
  | nil => rfl
  | append_singleton past operation ih =>
      rw [after_snoc, perform_snd, done_snoc, present_snoc, outstanding_snoc, ih]

/-- However a session is used, it has two members at most. -/
theorem length_members_perform_le {session : Session} (within : session.members.length ≤ 2)
    (operation : Operation) : (session.perform operation).2.members.length ≤ 2 := by
  cases operation with
  | attach connection =>
      rw [perform_attach]
      split
      · next room =>
        rw [List.length_append, List.length_singleton]
        exact room
      · exact within
  | detach gone => exact Nat.le_trans (List.length_filter_le _ _) within
  | enqueue sender payload | drainAll => exact within

theorem length_members_after_le (id : SessionId) (trace : List Operation) :
    (after id trace).members.length ≤ 2 := by
  induction trace using List.reverseRecOn with
  | nil => exact Nat.zero_le 2
  | append_singleton past operation ih =>
      rw [after_snoc]
      exact length_members_perform_le ih operation

/-! ## The law of traces -/

/-- What the trace of a session tells about it. -/
structure ToldByTrace (id : SessionId) (trace : List Operation) : Prop where
  /-- What is handed over is what is outstanding, in the order in which it was left, -/
  drained : (after id trace).answer .drainAll =
    .drained ((outstanding trace).map PendingEntry.payload)
  /-- and that is also what is counted as waiting. -/
  waiting : (after id trace).pending.length = (outstanding trace).length
  members : (after id trace).members = present (done id trace)
  /-- A connection is taken in while fewer than two are present. -/
  attached : ∀ connection, (after id trace).answer (.attach connection) = .attached (.ok ()) ↔
    (present (done id trace)).length < 2
  /-- It is turned away otherwise, and nothing changes. -/
  turnedAway : ∀ connection, 2 ≤ (present (done id trace)).length →
    (after id trace).answer (.attach connection) = .attached (.error (.spaceFull id)) ∧
      after id (trace ++ [.attach connection]) = after id trace
  otherMember : ∀ other, (after id trace).otherMember other =
    (present (done id trace)).find? fun member => member.id ≠ other

/-- After every trace a session is what the trace tells. -/
theorem told_by_trace (id : SessionId) (trace : List Operation) : ToldByTrace id trace := by
  have told := after_eq id trace
  constructor
  case drained => rw [told]; rfl
  case waiting => rw [told]
  case members => rw [told]
  case attached =>
    intro connection
    rw [answer, perform_attach, told]
    split <;> simp [*]
  case turnedAway =>
    intro connection two
    have full : ¬ (after id trace).members.length < 2 := by rwa [told, Nat.not_lt]
    rw [answer, after_snoc, perform_attach, if_neg full, told]
    exact ⟨rfl, rfl⟩
  case otherMember =>
    intro other
    rw [told]
    rfl

/-- A sender that was let go may leave something behind again, and what a stranger left stays
when others are let go. -/
example : outstanding [.enqueue ⟨0, "sender"⟩ [1], .enqueue ⟨1, "stranger"⟩ [2],
    .detach ⟨0, "sender"⟩, .enqueue ⟨0, "sender"⟩ [3]] =
      [⟨⟨1, "stranger"⟩, [2]⟩, ⟨⟨0, "sender"⟩, [3]⟩] := by
  decide

end Rendezvous.Session
