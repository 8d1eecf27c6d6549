/-
# The identity of a relay

A relay that listens with TLS shows a chain of certificates and proves that it
holds the key of the first. Files are read and checked here as far as their
armour goes; whether what is in them is a key or a certificate, only the TLS
library can tell.
-/

import Rendezvous.Configuration

namespace Rendezvous

/-- What the TLS library makes of the content of sections. -/
structure TlsLibrary where
  acceptsKey : Octets → Bool
  acceptsCertificate : Octets → Bool

/-- A library that knows one certificate and its key. -/
def TlsLibrary.ofPair (certificate key : Octets) : TlsLibrary :=
  ⟨fun content => content = key, fun content => content = certificate⟩

/-- Certificates, the relay's own first, and the key of that one. -/
structure Identity where
  chain : List Octets
  key : Octets
  deriving DecidableEq, Repr

/-- The files of a system, by their paths. -/
abbrev FileSystem := String → Except FileFault Octets

namespace Identity

/-- Reads a file in some way. -/
def readFile {α : Type} (files : FileSystem) (path : String)
    (reading : Octets → Except Armour.SectionFault α) : Except ConfigError α :=
  match files path with
  | .error fault => .error (.file path fault)
  | .ok content =>
    match reading content with
    | .ok value => .ok value
    | .error fault => .error (.file path (.malformed fault))

/-- Reads the chain of certificates, of which there must be one at least. -/
def loadChain (files : FileSystem) (path : String) : Except ConfigError (List Octets) := do
  let chain ← readFile files path Armour.certificates
  if chain.isEmpty then .error (.emptyCertificateChain path) else return chain

/-- Reads the private key. -/
def loadKey (files : FileSystem) (path : String) : Except ConfigError Octets := do
  match ← readFile files path Armour.privateKey? with
  | some key => return key
  | none => .error (.emptyPrivateKey path)

/-- Whether the library takes the key and the first certificate, in this order. -/
def check (library : TlsLibrary) (identity : Identity) : Except ConfigError Identity :=
  if !library.acceptsKey identity.key then .error (.identity .unusableKey)
  else if !(identity.chain.head?.any library.acceptsCertificate) then
    .error (.identity .unusableCertificate)
  else .ok identity

/-- Reads and checks an identity: all of the certificates first, then the key. -/
def load (library : TlsLibrary) (files : FileSystem) (tls : TlsFiles) :
    Except ConfigError Identity := do
  let chain ← loadChain files tls.certfile
  let key ← loadKey files tls.keyfile
  check library ⟨chain, key⟩

end Identity

end Rendezvous
