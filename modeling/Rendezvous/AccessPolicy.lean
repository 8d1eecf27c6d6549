/-
# Access policies

A policy lists what paths may start with and which values the headers `Host` and
`Origin` may have. An empty list allows everything; a list with entries also
turns away a request without the header.
-/

import Rendezvous.SignalingError

namespace Rendezvous

/-- What requests are let in. -/
structure AccessPolicy where
  paths : List String := []
  hosts : List String := []
  origins : List String := []
  deriving DecidableEq, Repr

namespace AccessPolicy

/-- Whether a path starts with an entry of the list. -/
def allowsPath (allowed : List String) (path : String) : Bool :=
  allowed.isEmpty || allowed.any fun stem => stem.toList.isPrefixOf path.toList

/-- Whether a header has a value of the list. -/
def allowsHeader (allowed : List String) : Option String → Bool
  | none => allowed.isEmpty
  | some value => allowed.isEmpty || allowed.contains value

/-- The session that a request addresses, or the first reason against it: the
path, the host, the origin, the shape of the path. -/
def admission (policy : AccessPolicy) (path : String) (host origin : Option String) :
    Except SignalingError SessionId :=
  if !allowsPath policy.paths path then .error (.invalidPath path)
  else if !allowsHeader policy.hosts host then .error (.forbidden .host host)
  else if !allowsHeader policy.origins origin then .error (.forbidden .origin origin)
  else SessionId.ofPath path

end AccessPolicy

end Rendezvous
