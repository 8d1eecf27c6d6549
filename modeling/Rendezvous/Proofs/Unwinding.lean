/-
# Two histories side by side

Some calls of a history are kept in sight and the others are not. Two histories with
the same calls in sight are run side by side, and the question is whether the lines of
the two transcripts that are in sight agree. `Unwinding` reduces this to one call at a
time: what is out of sight is not noticed on either side, and what is in sight does the
same on both.
-/

import Mathlib.Data.List.Forall2
import Rendezvous.Proofs.History

namespace Rendezvous

/-- Two lines of transcripts are about the same call, with the same result, and the
worlds after it agree as far as they are seen. -/
structure Record.Matches (seen : World Relay → World Relay → Prop) (one other : Record) :
    Prop where
  call : one.call = other.call
  result : one.result = other.result
  world : seen one.world other.world

/-- The lines of a transcript that are in sight. -/
def World.linesInSight (world : World Relay) (inSight : HookCall → Bool)
    (history : History) : List Record :=
  (world.transcript history).filter fun line => inSight line.call

namespace World

variable (world : World Relay) {inSight : HookCall → Bool} {call : HookCall}

theorem linesInSight_cons_of_pos (visible : inSight call = true) (rest : History) :
    world.linesInSight inSight (call :: rest) =
      world.record call :: (world.after call).linesInSight inSight rest :=
  List.filter_cons_of_pos visible

theorem linesInSight_cons_of_neg (hidden : inSight call = false) (rest : History) :
    world.linesInSight inSight (call :: rest) =
      (world.after call).linesInSight inSight rest :=
  List.filter_cons_of_neg (by simpa [record] using hidden)

end World

/-- Two runs agree, line by line as far as the calls are in sight, and at the end. -/
structure AgreeInSight (inSight : HookCall → Bool) (seen : World Relay → World Relay → Prop)
    (left right : World Relay) (history history' : History) : Prop where
  lines : List.Forall₂ (Record.Matches seen) (left.linesInSight inSight history)
    (right.linesInSight inSight history')
  ends : seen (left.afterAll history) (right.afterAll history')

/-- What is related, by what is still to come in two runs and by the worlds that they
have reached, stays related call by call. -/
structure Unwinding (inSight : HookCall → Bool) (seen : World Relay → World Relay → Prop)
    (related : History → History → World Relay → World Relay → Prop) : Prop where
  seen {future future' : History} {left right : World Relay}
    (here : related future future' left right) : seen left right
  /-- A call out of sight on the left is not noticed. -/
  left {call : HookCall} {future future' : History} {left right : World Relay}
    (here : related (call :: future) future' left right) (hidden : inSight call = false) :
    related future future' (left.after call) right
  /-- A call out of sight on the right is not noticed. -/
  right {call : HookCall} {future future' : History} {left right : World Relay}
    (here : related future (call :: future') left right) (hidden : inSight call = false) :
    related future future' left (right.after call)
  /-- A call in sight does the same on both sides. -/
  both {call : HookCall} {future future' : History} {left right : World Relay}
    (here : related (call :: future) (call :: future') left right)
    (visible : inSight call = true) :
    left.result call = right.result call ∧
      related future future' (left.after call) (right.after call)

namespace Unwinding

variable {inSight : HookCall → Bool} {seen : World Relay → World Relay → Prop}
  {related : History → History → World Relay → World Relay → Prop}

/-- Calls out of sight on the right, before anything happens on the left. -/
theorem agree_of_hidden (unwinding : Unwinding inSight seen related)
    {hidden history history' : History} (all : ∀ call ∈ hidden, inSight call = false)
    (later : ∀ {left right : World Relay}, related history history' left right →
      AgreeInSight inSight seen left right history history')
    {left right : World Relay} (here : related history (hidden ++ history') left right) :
    AgreeInSight inSight seen left right history (hidden ++ history') := by
  induction hidden generalizing right with
  | nil => exact later here
  | cons call rest ih =>
      have first := all call List.mem_cons_self
      have agree := ih (fun other listed => all other (List.mem_cons_of_mem call listed))
        (unwinding.right here first)
      refine ⟨?_, agree.ends⟩
      rw [List.cons_append, right.linesInSight_cons_of_neg first]
      exact agree.lines

/-- Related runs with the same calls in sight agree. -/
theorem agree (unwinding : Unwinding inSight seen related) {history history' : History}
    {left right : World Relay} (here : related history history' left right)
    (same : history.filter inSight = history'.filter inSight) :
    AgreeInSight inSight seen left right history history' := by
  induction history generalizing history' left right with
  | nil =>
      have all : ∀ call ∈ history', inSight call = false := by
        simpa using same.symm
      rw [← List.append_nil history'] at here ⊢
      exact unwinding.agree_of_hidden all (fun here => ⟨.nil, unwinding.seen here⟩) here
  | cons call rest ih =>
      cases visible : inSight call with
      | false =>
          rw [List.filter_cons_of_neg (by simpa using visible)] at same
          have agree := ih (unwinding.left here visible) same
          refine ⟨?_, agree.ends⟩
          rw [left.linesInSight_cons_of_neg visible]
          exact agree.lines
      | true =>
          rw [List.filter_cons_of_pos visible] at same
          obtain ⟨hidden, rest', rfl, all, -, later⟩ := List.filter_eq_cons_iff.mp same.symm
          refine unwinding.agree_of_hidden (fun call listed => by simpa using all call listed)
            (fun here => ?_) here
          obtain ⟨result, next⟩ := unwinding.both here visible
          have agree := ih next later.symm
          refine ⟨?_, agree.ends⟩
          rw [World.linesInSight_cons_of_pos _ visible, World.linesInSight_cons_of_pos _ visible]
          exact .cons ⟨rfl, result, unwinding.seen next⟩ agree.lines

end Unwinding

end Rendezvous
