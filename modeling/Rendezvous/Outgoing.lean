/-
# What is sent to a client

Two kinds of message leave the relay: one party's data on its way to the other,
and the answer to a request for the configuration. Data and tokens are written
exactly as they came in.
-/

import Rendezvous.Json.Writer

namespace Rendezvous

/-- What clients need to know to reach each other: the addresses of the servers
that help them. -/
structure PeerConfiguration where
  iceServers : List String
  deriving DecidableEq, Repr

/-- The server named where none is configured. -/
def defaultIceServer : String := "stun:stun.l.google.com:19302"

instance : Inhabited PeerConfiguration := ⟨⟨[defaultIceServer]⟩⟩

/-- The configuration as a value. -/
def PeerConfiguration.toJson (configuration : PeerConfiguration) : Octets :=
  Json.writeObject [("iceServers", Json.writeList (configuration.iceServers.map fun url =>
    Json.writeObject [("url", Json.writeString (.ofText url))]))]

/-- A message to a client. -/
inductive Outgoing
  /-- Data from the other party of the session. -/
  | notify (data : Octets)
  /-- The configuration, under the token of the request if it had one. -/
  | configuration (peers : PeerConfiguration) (msgId : Option Octets)
  /-- Text that is sent as it is. -/
  | text (content : Octets)
  deriving DecidableEq, Repr

/-- The text of a message. -/
def Outgoing.toText : Outgoing → Octets
  | .notify data =>
    Json.writeObject [("method", Json.writeString (.ofText "NOTIFY")), ("data", data)]
  | .configuration peers msgId =>
    Json.writeObject
      ([("code", Json.writeString (.ofText "success")),
        ("result", Json.writeObject [("configuration", peers.toJson)])]
        ++ (msgId.map fun token => ("msg_id", token)).toList)
  | .text content => content

end Rendezvous
