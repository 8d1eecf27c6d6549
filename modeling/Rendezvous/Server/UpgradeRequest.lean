/-
# Requests to open a connection

A client asks for a connection with the head of an HTTP request. Of headers with
the same name, in whatever case, the first counts; a value with anything but
visible ASCII characters counts as no value.
-/

import Rendezvous.AccessPolicy
import Rendezvous.Server.RequestTarget

namespace Rendezvous

/-- The head of a request: method, target and headers in the order in which they
were sent. -/
structure UpgradeRequest where
  method : String
  target : String
  headers : List (String × String)
  deriving DecidableEq, Repr

namespace UpgradeRequest

/-- Whether two texts differ at most in the case of ASCII letters. -/
def sameName (left right : String) : Bool :=
  left.toList.map Char.toLower = right.toList.map Char.toLower

/-- Whether a character is a space or a tab. -/
def isPadding (char : Char) : Bool := char = ' ' || char = '\t'

/-- Whether a character may occur in the value of a header that is looked at. -/
def isVisible (char : Char) : Bool :=
  char = '\t' || (' ' ≤ char && char ≤ '~')

/-- A value without the padding around it. -/
def trimmed (value : List Char) : List Char :=
  ((value.dropWhile isPadding).reverse.dropWhile isPadding).reverse

/-- The value of the first header of a name. -/
def header? (request : UpgradeRequest) (name : String) : Option String :=
  match request.headers.find? fun header => sameName header.1 name with
  | none => none
  | some (_, value) =>
    let shown := trimmed value.toList
    if shown.all isVisible then some (String.ofList shown) else none

/-- The words of a value between spaces and commas. -/
def words : List Char → List Char → List (List Char)
  | current, [] => [current.reverse]
  | current, char :: rest =>
    if char = ' ' || char = ',' then current.reverse :: words [] rest
    else words (char :: current) rest

/-- Whether a value names the upgrade of the connection among other things. -/
def namesUpgrade (value : String) : Bool :=
  (words [] value.toList).any fun word => sameName (String.ofList word) "Upgrade"

/-- Whether the request can be read and asks for a WebSocket. -/
def asksForUpgrade (request : UpgradeRequest) : Bool :=
  request.method = "GET" && (RequestTarget.path? request.target).isSome &&
    (request.header? "Connection").any namesUpgrade &&
    (request.header? "Upgrade").any (sameName · "websocket") &&
    request.header? "Sec-WebSocket-Version" = some "13" &&
    (request.header? "Sec-WebSocket-Key").isSome

/-- The path of the target: without query and fragment, nothing decoded, and
without scheme and authority where the target has them. -/
def path (request : UpgradeRequest) : String := (RequestTarget.path? request.target).getD ""

/-- What a policy makes of the request. -/
def admission (request : UpgradeRequest) (policy : AccessPolicy) :
    Except SignalingError SessionId :=
  policy.admission request.path (request.header? "Host") (request.header? "Origin")

end UpgradeRequest

/-- How a request to open a connection is answered. -/
inductive Reception
  /-- Not at all: it asked for something else. -/
  | unanswered
  /-- With a status and a short text. -/
  | refused (status : Nat) (body : String)
  /-- The connection is open and addresses a session. -/
  | accepted (session : SessionId)
  deriving DecidableEq, Repr

/-- The answer to a client that is turned away. -/
def Reception.ofError : SignalingError → Reception
  | .spaceFull _ => .refused 400 "Space Full"
  | .invalidPath _ => .refused 404 "Not Found"
  | .forbidden _ _ => .refused 403 "Forbidden"
  | .protocol _ _ | .peerGone _ | .internal _ => .refused 500 "Internal Server Error"

end Rendezvous
