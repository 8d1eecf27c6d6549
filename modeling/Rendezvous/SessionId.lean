/-
# Session identifiers and the errors that name them

A session is named by the part of the request path after `/call/`, taken as it
is: case matters, further slashes belong to it, and nothing is decoded.
-/

namespace Rendezvous

/-- The name of a session. -/
structure SessionId where
  text : String
  deriving DecidableEq, Repr

namespace SessionId

/-- What the path of every session starts with. -/
def pathStem : String := "/call/"

/-- The session that a path names, if it is the stem and at least one character
more. -/
def ofPath? (path : String) : Option SessionId :=
  match pathStem.toList.isPrefixOf? path.toList with
  | some (first :: rest) => some ⟨String.ofList (first :: rest)⟩
  | _ => none

end SessionId

end Rendezvous
