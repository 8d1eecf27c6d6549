/-
# What is wrong with a configuration

Everything that can keep the relay from starting, the network apart: a listen
address that is none, files that are not named, cannot be read or hold no
identity. What the TLS library finds wrong with a key or a certificate is reduced
to which of the two it rejects.
-/

import Rendezvous.Armour.Section

namespace Rendezvous

/-- Why a file cannot be used. -/
inductive FileFault
  /-- The system gives no access, in its own words. -/
  | unreadable (reason : String)
  /-- The file is no armoured text. -/
  | malformed (fault : Armour.SectionFault)
  deriving DecidableEq, Repr

/-- The wording of a fault. -/
def FileFault.message : FileFault → String
  | .unreadable reason => reason
  | .malformed fault => fault.message

/-- There is no file of that name, as the system says it. -/
def FileFault.missing : FileFault := .unreadable "No such file or directory (os error 2)"

/-- Why a certificate and a key do not make an identity. -/
inductive IdentityFault
  | unusableKey
  | unusableCertificate
  deriving DecidableEq, Repr

/-- The wording of a fault. -/
def IdentityFault.message : IdentityFault → String
  | .unusableKey =>
    "unexpected error: failed to parse private key as RSA, ECDSA, or EdDSA"
  | .unusableCertificate => "invalid peer certificate: BadEncoding"

/-- What is wrong with a configuration. -/
inductive ConfigError
  | invalidListen (value : String)
  | missingTlsFiles
  | file (path : String) (fault : FileFault)
  | emptyCertificateChain (path : String)
  | emptyPrivateKey (path : String)
  | identity (fault : IdentityFault)
  deriving DecidableEq, Repr

/-- The wording of an error. -/
def ConfigError.message : ConfigError → String
  | .invalidListen value =>
    "invalid listen option " ++ Text.quoted value ++ ", expected TYPE:HOST:PORT"
  | .missingTlsFiles => "missing certfile or keyfile option for a TLS listener"
  | .file path fault => "failed to read " ++ path ++ ": " ++ fault.message
  | .emptyCertificateChain path => "no certificate found in " ++ path
  | .emptyPrivateKey path => "no private key found in " ++ path
  | .identity fault => "tls configuration error: " ++ fault.message

end Rendezvous
