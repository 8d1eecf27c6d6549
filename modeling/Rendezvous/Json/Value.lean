/-
# Values that are kept unread

The value of a member is only checked against the grammar. The scanner keeps the
brackets that are still open on a stack of its own, so nesting may be of any
depth, and looks at each octet once. A number has no closing mark: it is complete
as soon as an octet comes that cannot belong to it, and that octet is then read
as what follows the number.
-/

import Rendezvous.Json.Numeral
import Rendezvous.Json.StringToken

namespace Rendezvous.Json

/-- The two kinds of brackets. -/
inductive Container
  | list
  | object
  deriving DecidableEq, Repr

/-- The closing bracket. -/
def Container.closing : Container → UInt8
  | .list => 0x5D
  | .object => 0x7D

/-- What is wrong when the input ends inside the brackets. -/
def Container.endCause : Container → Cause
  | .list => .endInList
  | .object => .endInObject

/-- What is wrong when neither a comma nor the closing bracket comes. -/
def Container.expectedEnd : Container → Cause
  | .list => .expectedListEnd
  | .object => .expectedObjectEnd

/-- What the scanner expects next. -/
inductive ValuePhase
  /-- A value. -/
  | value
  /-- The first element of a list, or its end. -/
  | listStart
  /-- The first key of an object, or its end. -/
  | objectStart
  /-- A key, after a comma. -/
  | key
  /-- The colon after a key. -/
  | colon
  /-- A comma or the closing bracket, after an element. -/
  | separator
  /-- The rest of a literal. -/
  | literal (rest : Octets)
  /-- More of a number. -/
  | number (phase : NumberPhase)
  /-- More of a string, which is a key or a value. -/
  | string (isKey : Bool) (phase : ScanPhase)
  deriving DecidableEq, Repr

/-- A scanner: what it expects next and the brackets open around it, the innermost
first. -/
structure Scanner where
  phase : ValuePhase
  enclosing : List Container
  deriving DecidableEq, Repr

/-- What one more octet does to the value that is scanned. -/
inductive ValueStep
  | more (scanner : Scanner)
  /-- The value is complete and this octet is its last. -/
  | complete
  /-- The value was complete before this octet. -/
  | completeBefore
  | refused (refusal : Refusal)
  deriving DecidableEq, Repr

/-- The rest of the literal that starts with a letter. -/
def literalRest? (octet : UInt8) : Option Octets :=
  if octet = 0x6E then some [0x75, 0x6C, 0x6C]
  else if octet = 0x74 then some [0x72, 0x75, 0x65]
  else if octet = 0x66 then some [0x61, 0x6C, 0x73, 0x65]
  else none

namespace Scanner

/-- A scanner in front of a value. -/
def start : Scanner := ⟨.value, []⟩

/-- The step that ends an element inside the given brackets. -/
def endElement : List Container → ValueStep
  | [] => .complete
  | enclosing => .more ⟨.separator, enclosing⟩

/-- The step at the octet that begins a value. -/
def beginValue (enclosing : List Container) (octet : UInt8) : ValueStep :=
  if octet = 0x22 then .more ⟨.string false .plain, enclosing⟩
  else if octet = 0x5B then .more ⟨.listStart, .list :: enclosing⟩
  else if octet = 0x7B then .more ⟨.objectStart, .object :: enclosing⟩
  else
    match literalRest? octet with
    | some rest => .more ⟨.literal rest, enclosing⟩
    | none =>
      match NumberPhase.start? octet with
      | some phase => .more ⟨.number phase, enclosing⟩
      | none => .refused ⟨.expectedValue, .after⟩

/-- The step at the octet that begins a key. -/
def beginKey (enclosing : List Container) (octet : UInt8) : ValueStep :=
  if octet = 0x22 then .more ⟨.string true .plain, enclosing⟩
  else .refused ⟨.keyNotString, .after⟩

/-- The step at the octet after an element. -/
def separate (enclosing : List Container) (octet : UInt8) : ValueStep :=
  match enclosing with
  | [] => .completeBefore
  | container :: outer =>
    if isBlank octet then .more ⟨.separator, enclosing⟩
    else if octet = 0x2C then
      match container with
      | .list => .more ⟨.value, enclosing⟩
      | .object => .more ⟨.key, enclosing⟩
    else if octet = container.closing then endElement outer
    else .refused ⟨container.expectedEnd, .after⟩

/-- The step at an octet. -/
def step (scanner : Scanner) (octet : UInt8) : ValueStep :=
  let enclosing := scanner.enclosing
  match scanner.phase with
  | .value =>
    if isBlank octet then .more scanner else beginValue enclosing octet
  | .listStart =>
    if isBlank octet then .more scanner
    else if octet = Container.list.closing then endElement (enclosing.drop 1)
    else beginValue enclosing octet
  | .objectStart =>
    if isBlank octet then .more scanner
    else if octet = Container.object.closing then endElement (enclosing.drop 1)
    else beginKey enclosing octet
  | .key => if isBlank octet then .more scanner else beginKey enclosing octet
  | .colon =>
    if isBlank octet then .more scanner
    else if octet = 0x3A then .more ⟨.value, enclosing⟩
    else .refused ⟨.expectedColon, .after⟩
  | .separator => separate enclosing octet
  | .literal rest =>
    match rest with
    | [] => .refused ⟨.expectedIdentifier, .after⟩
    | expected :: later =>
      if octet ≠ expected then .refused ⟨.expectedIdentifier, .after⟩
      else if later.isEmpty then endElement enclosing
      else .more ⟨.literal later, enclosing⟩
  | .number phase =>
    match phase.step octet with
    | .more next => .more ⟨.number next, enclosing⟩
    | .ended => separate enclosing octet
    | .invalid => .refused ⟨.invalidNumber, .after⟩
  | .string isKey phase =>
    match phase.step octet with
    | .more next => .more ⟨.string isKey next, enclosing⟩
    | .closed => if isKey then .more ⟨.colon, enclosing⟩ else endElement enclosing
    | .refused refusal => .refused refusal

/-- What is wrong when the input ends here. The brackets around everything are
those of the frame, an object. -/
def endCause (scanner : Scanner) : Cause :=
  let innermost := scanner.enclosing.headD .object
  match scanner.phase with
  | .value => .endInValue
  | .listStart => .endInList
  | .objectStart | .key | .colon => .endInObject
  | .separator => innermost.endCause
  | .literal _ => .endInValue
  | .number phase => if phase.isComplete then innermost.endCause else .invalidNumber
  | .string _ _ => .endInString

end Scanner

end Rendezvous.Json
