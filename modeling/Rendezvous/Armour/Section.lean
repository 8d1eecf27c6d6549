/-
# Armoured sections

Certificates and keys are kept in text files, in sections between a line that
begins one and a line that ends it. What stands outside sections is passed over,
and so are sections with labels that are not known. Sections are read one at a
time, so that a reader can stop at the first that it is looking for.
-/

import Rendezvous.Armour.Base64
import Rendezvous.Text.Quoted

namespace Rendezvous.Armour

/-- The kinds of sections that are known. -/
inductive Kind
  | certificate
  | publicKey
  | rsaPrivateKey
  | privateKey
  | ecPrivateKey
  | revocationList
  | certificateRequest
  | echConfig
  deriving DecidableEq, Repr

/-- The label of a kind. -/
def Kind.label : Kind → String
  | .certificate => "CERTIFICATE"
  | .publicKey => "PUBLIC KEY"
  | .rsaPrivateKey => "RSA PRIVATE KEY"
  | .privateKey => "PRIVATE KEY"
  | .ecPrivateKey => "EC PRIVATE KEY"
  | .revocationList => "X509 CRL"
  | .certificateRequest => "CERTIFICATE REQUEST"
  | .echConfig => "ECHCONFIG"

/-- Every kind. -/
def Kind.all : List Kind :=
  [.certificate, .publicKey, .rsaPrivateKey, .privateKey, .ecPrivateKey, .revocationList,
    .certificateRequest, .echConfig]

/-- The kind with a label. -/
def Kind.ofLabel? (label : Octets) : Option Kind :=
  Kind.all.find? fun kind => Octets.ofText kind.label = label

/-- Whether sections of a kind hold a private key. -/
def Kind.isPrivateKey : Kind → Bool
  | .rsaPrivateKey | .privateKey | .ecPrivateKey => true
  | _ => false

/-- What a section holds. -/
structure Section where
  kind : Kind
  content : Octets
  deriving DecidableEq, Repr

/-- Why a file cannot be read on. -/
inductive SectionFault
  /-- A line begins a section but does not end in five dashes. -/
  | illegalStart (line : Octets)
  /-- The file ends inside a section. -/
  | missingEnd (label : Octets)
  | base64 (fault : Base64Fault)
  deriving DecidableEq, Repr

/-- The wording of a fault. -/
def SectionFault.message : SectionFault → String
  | .illegalStart line => "illegal section start: " ++ Text.quoted line.toText
  | .missingEnd label => "section end " ++ Text.quoted label.toText ++ " missing"
  | .base64 fault => fault.message

/-- Whether an octet ends a line. -/
def endsLine (octet : UInt8) : Bool := octet = 0x0A || octet = 0x0D

/-- The lines of a text, each with the octet that ends it. `current` holds the line
that is open, the latest octet first. -/
def lines (current : Octets) : Octets → List Octets
  | [] => if current.isEmpty then [] else [current.reverse]
  | octet :: rest =>
    if endsLine octet then (octet :: current).reverse :: lines [] rest
    else lines (octet :: current) rest

/-- What a line that begins a section starts with. -/
def beginMark : Octets := .ofText "-----BEGIN "

/-- The line that ends a section. -/
def endMark (label : Octets) : Octets :=
  .ofText "-----END " ++ label ++ .ofText "-----"

/-- The dashes at the end of a line, among which ends of lines and spaces may
stand, in reverse. -/
def trailer (line : Octets) : Octets :=
  line.reverse.takeWhile fun octet => octet = 0x2D || endsLine octet || octet = 0x20

/-- The label in a line that begins a section, or the fault that the line does not
end in five dashes. -/
def beginLabel (line : Octets) : Except SectionFault Octets :=
  let tail := (trailer line).reverse
  let fromDash := tail.dropWhile (· ≠ 0x2D)
  if fromDash.count 0x2D = 5 then
    .ok ((line.take (line.length - fromDash.length)).drop beginMark.length)
  else .error (.illegalStart line)

/-- The state between lines: the label of the open section and the text collected
so far. -/
structure Collector where
  label : Option Octets
  collected : Octets
  deriving DecidableEq, Repr

namespace Collector

/-- The state outside sections. -/
def outside : Collector := ⟨none, []⟩

/-- A line that does not begin a section: the one that ends the open section
completes it, if its label is known; another is collected in a section and passed
over outside. -/
def continued (collector : Collector) (line : Octets) :
    Except SectionFault (Collector ⊕ Section) :=
  match collector.label with
  | none => .ok (.inl collector)
  | some label =>
    if (endMark label).isPrefixOf line then
      match Kind.ofLabel? label with
      | none => .ok (.inl outside)
      | some kind =>
        match Base64.decode collector.collected with
        | .ok content => .ok (.inr ⟨kind, content⟩)
        | .error fault => .error (.base64 fault)
    else .ok (.inl ⟨some label, collector.collected ++ line⟩)

/-- What a line does. A line that begins a section inside another only replaces its
label. -/
def take (collector : Collector) (line : Octets) :
    Except SectionFault (Collector ⊕ Section) :=
  if beginMark.isPrefixOf line then
    (beginLabel line).map fun label => .inl ⟨some label, collector.collected⟩
  else collector.continued line

end Collector

/-- The sections of a file up to the first that is asked for, in order, and that
one too; or the fault met before. -/
def sectionsUntil (wanted : Kind → Bool) (collector : Collector) :
    List Octets → Except SectionFault (List Section)
  | [] =>
    match collector.label with
    | some label => .error (.missingEnd label)
    | none => .ok []
  | line :: rest =>
    match collector.take line with
    | .error fault => .error fault
    | .ok (.inl next) => sectionsUntil wanted next rest
    | .ok (.inr found) =>
      if wanted found.kind then .ok [found]
      else (sectionsUntil wanted .outside rest).map fun later => found :: later

/-- The contents of all certificates in a file. -/
def certificates (file : Octets) : Except SectionFault (List Octets) :=
  (sectionsUntil (fun _ => false) .outside (lines [] file)).map fun sections =>
    (sections.filter fun found => found.kind = .certificate).map Section.content

/-- The content of the first private key in a file. What comes after it is not
looked at. -/
def privateKey? (file : Octets) : Except SectionFault (Option Octets) :=
  (sectionsUntil Kind.isPrivateKey .outside (lines [] file)).map fun sections =>
    (sections.find? fun found => found.kind.isPrivateKey).map Section.content

end Rendezvous.Armour
