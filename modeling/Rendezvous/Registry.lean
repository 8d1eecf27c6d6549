/-
# The registry

The registry holds the sessions that exist. A session comes into being when it is
first asked for and ceases to be once it is found without members.
-/

import Rendezvous.Directory
import Rendezvous.Session

namespace Rendezvous

/-- The sessions that exist, by their identifiers. -/
abbrev Registry := Directory SessionId Session

namespace Registry

/-- The session of an identifier, as it would be found on entering it. -/
def session (registry : Registry) (id : SessionId) : Session :=
  (registry.get? id).getD (Session.new id)

/-- Make sure that the session exists. -/
def getOrCreate (registry : Registry) (id : SessionId) : Registry :=
  registry.set id (registry.session id)

/-- Change the session of an identifier, if it exists. -/
def modify (registry : Registry) (id : SessionId) (change : Session → Session) : Registry :=
  match registry.get? id with
  | some session => registry.set id (change session)
  | none => registry

/-- Whether the session exists and has no members. -/
def isIdle (registry : Registry) (id : SessionId) : Bool :=
  (registry.get? id).any Session.isEmpty

/-- Remove the session if it has no members; says whether it was removed. -/
def removeIfEmpty (registry : Registry) (id : SessionId) : Bool × Registry :=
  if registry.isIdle id then (true, registry.erase id) else (false, registry)

/-- Whether the session takes no further connection. -/
def isFull (registry : Registry) (id : SessionId) : Bool :=
  (registry.get? id).any Session.isFull

@[simp] theorem session_empty (id : SessionId) : session .empty id = Session.new id := rfl

theorem session_of_get? {registry : Registry} {id : SessionId} {found : Session}
    (known : registry.get? id = some found) : registry.session id = found := by
  simp [session, known]

theorem get?_getOrCreate (registry : Registry) (id other : SessionId) :
    (registry.getOrCreate id).get? other =
      if other = id then some (registry.session id) else registry.get? other :=
  Directory.get?_set registry id other _

theorem get?_removeIfEmpty (registry : Registry) (id other : SessionId) :
    (registry.removeIfEmpty id).2.get? other =
      if other = id ∧ (registry.removeIfEmpty id).1 then none else registry.get? other := by
  unfold removeIfEmpty
  split
  · simp [Directory.get?_erase]
  · simp

theorem removeIfEmpty_fst (registry : Registry) (id : SessionId) :
    (registry.removeIfEmpty id).1 = registry.isIdle id := by
  unfold removeIfEmpty
  split <;> simp_all

end Registry

end Rendezvous
