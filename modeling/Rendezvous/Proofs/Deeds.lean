/-
# Deeds

Something that is operated on gives an answer to every operation and is something else
afterwards. An operation with its answer is a deed, and the deeds of a trace, the oldest
first, are all that is known from outside.

What is the case after a trace is often told by what was begun along it and has not been
ended since. This is a function of the trace that looks ahead from every beginning; the
state that goes through the trace looks back instead, one step at a time, and the two meet
in `lasting_snoc`.
-/

import Mathlib.Data.List.Basic
import Mathlib.Data.List.Induction

namespace Rendezvous

/-- An operation with its answer. -/
structure Deed (ο α : Type) where
  operation : ο
  answer : α
  deriving DecidableEq, Repr

section

variable {σ ο α : Type} (perform : σ → ο → α × σ)

/-- What is left of a state after all operations of a trace. -/
def afterwards (state : σ) (trace : List ο) : σ :=
  trace.foldl (fun state operation => (perform state operation).2) state

/-- The operations of a trace, each with its answer. -/
def deeds (state : σ) : List ο → List (Deed ο α)
  | [] => []
  | operation :: rest =>
    ⟨operation, (perform state operation).1⟩ :: deeds (perform state operation).2 rest

@[simp] theorem afterwards_nil (state : σ) : afterwards perform state [] = state := rfl

@[simp] theorem afterwards_cons (state : σ) (operation : ο) (rest : List ο) :
    afterwards perform state (operation :: rest) =
      afterwards perform (perform state operation).2 rest := rfl

theorem afterwards_append (state : σ) (first second : List ο) :
    afterwards perform state (first ++ second) =
      afterwards perform (afterwards perform state first) second :=
  List.foldl_append

theorem afterwards_snoc (state : σ) (past : List ο) (operation : ο) :
    afterwards perform state (past ++ [operation]) =
      (perform (afterwards perform state past) operation).2 :=
  afterwards_append perform state past [operation]

theorem deeds_snoc (state : σ) (past : List ο) (operation : ο) :
    deeds perform state (past ++ [operation]) = deeds perform state past ++
      [⟨operation, (perform (afterwards perform state past) operation).1⟩] := by
  induction past generalizing state with
  | nil => rfl
  | cons first rest ih =>
      rw [List.cons_append, deeds, deeds, ih, List.cons_append, afterwards_cons]

/-- There is one deed for each operation, in their order. -/
theorem map_operation_deeds (state : σ) (trace : List ο) :
    (deeds perform state trace).map Deed.operation = trace := by
  induction trace generalizing state with
  | nil => rfl
  | cons operation rest ih => rw [deeds, List.map_cons, ih]

end

section

variable {α β : Type} (begins? : α → Option β) (ends : β → α → Bool)

/-- What is begun along a list and not ended by anything that comes later in it, in the
order of the beginnings. -/
def lasting : List α → List β
  | [] => []
  | item :: later =>
    ((begins? item).toList.filter fun begun => !later.any (ends begun)) ++ lasting later

/-- What lasts through two lists is what lasts through the first and is not ended in the
second, and then what lasts through the second. -/
theorem lasting_append (first second : List α) :
    lasting begins? ends (first ++ second) =
      ((lasting begins? ends first).filter fun begun => !second.any (ends begun)) ++
        lasting begins? ends second := by
  induction first with
  | nil => rfl
  | cons item later ih =>
      have both (begun : β) : (!(later ++ second).any (ends begun)) =
          (!second.any (ends begun) && !later.any (ends begun)) := by
        rw [List.any_append, Bool.not_or, Bool.and_comm]
      simp only [List.cons_append, lasting, ih, both, List.filter_append, List.filter_filter,
        List.append_assoc]

/-- One item more ends some of what lasts and may begin something. -/
theorem lasting_snoc (past : List α) (item : α) :
    lasting begins? ends (past ++ [item]) =
      ((lasting begins? ends past).filter fun begun => !ends begun item) ++
        (begins? item).toList := by
  simp [lasting_append, lasting]

end

end Rendezvous
