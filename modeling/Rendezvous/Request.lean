/-
# What a client asks for

Only the members `method`, `resource`, `msg_id` and `data` of a frame matter, and
of equal keys the last. A frame that is an object is never refused: what is
neither a request for the configuration nor a message for the other party is
recognised as such, with the reason, and has no further effect.
-/

import Rendezvous.Json.Frame

namespace Rendezvous

/-- The exact text of a value, as its sender wrote it. -/
abbrev Payload := Octets

/-- Why a frame is neither a request nor a message. -/
inductive Unrecognized
  | missingMethod
  | methodNotString (raw : Payload)
  | unknownResource (resource : Option Octets)
  | notifyWithoutData
  | unknownMethod (method : Octets)
  deriving DecidableEq, Repr

/-- The wording of a reason. -/
def Unrecognized.message : Unrecognized → String
  | .missingMethod => "missing method"
  | .methodNotString raw => "method is not a string: " ++ raw.toText
  | .unknownResource resource =>
    "unknown GET resource " ++ Text.quotedOption (resource.map Octets.toText)
  | .notifyWithoutData => "NOTIFY without data"
  | .unknownMethod method => "unknown method " ++ Text.quoted method.toText

/-- What a client asks for with one frame. -/
inductive Request
  /-- The configuration, answered under the given token. -/
  | getConfiguration (msgId : Option Payload)
  /-- A message for the other party of the session. -/
  | notify (data : Payload)
  | unrecognized (reason : Unrecognized)
  deriving DecidableEq, Repr

namespace Request

/-- The resource that holds the configuration. -/
def configurationResource : Octets := .ofText "/peerconnection"

/-- The method that asks for a resource. -/
def getMethod : Octets := .ofText "GET"

/-- The method that carries a message. -/
def notifyMethod : Octets := .ofText "NOTIFY"

/-- The meaning of a frame. -/
def ofFrame (frame : Json.Frame) : Request :=
  match frame.get? (.ofText "method") with
  | none => .unrecognized .missingMethod
  | some raw =>
    match Json.decodeString? raw with
    | none => .unrecognized (.methodNotString raw)
    | some method =>
      if method = getMethod then
        let resource := (frame.get? (.ofText "resource")).bind Json.decodeString?
        if resource = some configurationResource then
          .getConfiguration (frame.get? (.ofText "msg_id"))
        else .unrecognized (.unknownResource resource)
      else if method = notifyMethod then
        match frame.get? (.ofText "data") with
        | some data => .notify data
        | none => .unrecognized .notifyWithoutData
      else .unrecognized (.unknownMethod method)

/-- Reads one frame; it fails only where the text is no object. -/
def parse (text : Octets) : Except Json.Fault Request :=
  (Json.Frame.read text).map ofFrame

end Request

end Rendezvous
