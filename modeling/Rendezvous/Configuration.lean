/-
# The configuration of a relay

The arguments of the command line say what was asked for; a configuration is what
the relay runs with. Between the two, the files of the identity are dropped where
the transport needs none, and the list of servers for clients is filled in where
it was left empty. Nothing else is changed.
-/

import Rendezvous.AccessPolicy
import Rendezvous.CommandLine.Arguments
import Rendezvous.Event
import Rendezvous.Outgoing

namespace Rendezvous

/-- The files that hold the identity of a relay that listens with TLS. -/
structure TlsFiles where
  certfile : String
  keyfile : String
  deriving DecidableEq, Repr

/-- All that a relay is told before it starts. -/
structure Configuration where
  listen : ListenAddress
  tls : Option TlsFiles
  policy : AccessPolicy
  peers : PeerConfiguration
  logLevel : Level
  deriving DecidableEq, Repr

namespace CommandLine.Arguments

/-- The files that a transport needs: none, or both. -/
def tlsFiles (arguments : Arguments) : Except ConfigError (Option TlsFiles) :=
  match arguments.listen.transport with
  | .tcp => .ok none
  | .tls =>
    match arguments.certfile, arguments.keyfile with
    | some certfile, some keyfile => .ok (some ⟨certfile, keyfile⟩)
    | _, _ => .error .missingTlsFiles

/-- How much is logged. -/
def logLevel (arguments : Arguments) : Level :=
  if arguments.quiet then .error else if arguments.verbose then .debug else .info

/-- The servers that clients are told of; where none is given, there is one. -/
def peers (arguments : Arguments) : PeerConfiguration :=
  if arguments.iceServers.isEmpty then default else ⟨arguments.iceServers⟩

end CommandLine.Arguments

/-- The configuration that the arguments ask for. -/
def Configuration.ofArguments (arguments : CommandLine.Arguments) :
    Except ConfigError Configuration :=
  arguments.tlsFiles.map fun tls =>
    { listen := arguments.listen
      tls := tls
      policy := ⟨arguments.paths, arguments.hosts, arguments.origins⟩
      peers := arguments.peers
      logLevel := arguments.logLevel }

end Rendezvous
