/-
# Listen addresses

Where the relay listens is written as three parts with colons between them: how
connections are secured, a host, and a port.
-/

import Rendezvous.ConfigError

namespace Rendezvous

/-- How connections are secured. -/
inductive Transport
  | tcp
  | tls
  deriving DecidableEq, Repr

/-- The word for a transport. -/
def Transport.word : Transport → String
  | .tcp => "tcp"
  | .tls => "tls"

/-- The transport of a word. -/
def Transport.ofWord? (word : List Char) : Option Transport :=
  if word = Transport.tcp.word.toList then some .tcp
  else if word = Transport.tls.word.toList then some .tls
  else none

/-- Where the relay listens. -/
structure ListenAddress where
  transport : Transport
  host : String
  port : UInt16
  deriving DecidableEq, Repr

namespace ListenAddress

/-- What stands before the first colon and what stands after it. -/
def splitColon : List Char → Option (List Char × List Char)
  | [] => none
  | char :: rest =>
    if char = ':' then some ([], rest)
    else (splitColon rest).map fun (before, after) => (char :: before, after)

/-- The characters of a host: small letters, digits and three marks. -/
def isHostChar (char : Char) : Bool :=
  ('a' ≤ char && char ≤ 'z') || ('0' ≤ char && char ≤ '9') ||
    char = '_' || char = '-' || char = '.'

/-- The ten digits. -/
def isDigit (char : Char) : Bool := '0' ≤ char && char ≤ '9'

/-- The number written by decimal digits. -/
def digitsValue (digits : List Char) : Nat :=
  digits.foldl (fun sum digit => 10 * sum + (digit.toNat - 48)) 0

/-- The host that a part names, which may be any characters of a host but must be
some. -/
def hostOf? (part : List Char) : Option String :=
  if part ≠ [] ∧ part.all isHostChar then some (String.ofList part) else none

/-- The port that a part names with one to five digits. -/
def portOf? (part : List Char) : Option UInt16 :=
  if part ≠ [] ∧ part.length ≤ 5 ∧ part.all isDigit ∧ digitsValue part < 65536 then
    some (.ofNat (digitsValue part))
  else none

/-- Reads an address. -/
def parse? (value : String) : Option ListenAddress := do
  let (word, rest) ← splitColon value.toList
  let (host, port) ← splitColon rest
  return ⟨← Transport.ofWord? word, ← hostOf? host, ← portOf? port⟩

/-- Reads an address or says that the text is none. -/
def parse (value : String) : Except ConfigError ListenAddress :=
  match parse? value with
  | some address => .ok address
  | none => .error (.invalidListen value)

/-- Host and port. -/
def bindAddress (address : ListenAddress) : String :=
  address.host ++ ":" ++ toString address.port.toNat

/-- The address in its shortest spelling. -/
def display (address : ListenAddress) : String :=
  address.transport.word ++ ":" ++ address.bindAddress

end ListenAddress

end Rendezvous
