/-
# Frames

A frame is one object with decoded keys and unread values. It is read in one pass
over its octets by a machine whose state says what may come next; a fault is
therefore decided by the octets up to its position and by nothing after it. When
the input ends, the fault lies behind its last octet.
-/

import Rendezvous.Json.Value

namespace Rendezvous.Json

/-- The members of an object in the order in which they were written: decoded
keys, each with the octets of its value. -/
structure Frame where
  members : List (Octets × Octets)
  deriving DecidableEq, Repr

namespace Frame

/-- The value of the last member with the key. -/
def get? (frame : Frame) (key : Octets) : Option Octets :=
  frame.members.reverse.lookup key

end Frame

/-- What the reader of a frame expects next. -/
inductive FramePhase
  /-- The beginning of the text. -/
  | document
  /-- The rest of a literal that stands in place of the object. -/
  | topLiteral (value : TopValue) (rest : Octets)
  /-- More of a number in place of the object, with its octets, the latest first. -/
  | topNumber (phase : NumberPhase) (spelling : Octets)
  /-- More of a string in place of the object. -/
  | topString (decoder : Decoder)
  /-- The first key or the end of the object. -/
  | firstKey
  /-- A key, after a comma. -/
  | nextKey
  /-- More of a key. -/
  | key (decoder : Decoder)
  /-- The colon after a key. -/
  | colon (key : Octets)
  /-- The beginning of a value. -/
  | beforeValue (key : Octets)
  /-- More of a value, with its octets, the latest first. -/
  | value (key : Octets) (scanner : Scanner) (raw : Octets)
  /-- A comma or the end of the object. -/
  | separator
  /-- Nothing but blanks. -/
  | finished
  deriving DecidableEq, Repr

/-- A reader: what it expects next and the members read so far, the latest first. -/
structure Reader where
  phase : FramePhase
  members : List (Octets × Octets)
  deriving DecidableEq, Repr

namespace Reader

/-- The reader in front of a text. -/
def start : Reader := ⟨.document, []⟩

/-- The literal that starts with a letter, and the rest of its spelling. -/
def topLiteral? (octet : UInt8) : Option (TopValue × Octets) :=
  (literalRest? octet).map fun rest =>
    (if octet = 0x6E then .null else .boolean (octet = 0x74), rest)

/-- The step at the first octet of the text that is not blank. -/
def openDocument (reader : Reader) (octet : UInt8) : Except Refusal Reader :=
  if octet = 0x7B then .ok { reader with phase := .firstKey }
  else if octet = 0x22 then .ok { reader with phase := .topString .start }
  else if octet = 0x5B then .error ⟨.notAnObject .sequence, .before⟩
  else
    match topLiteral? octet with
    | some (value, rest) => .ok { reader with phase := .topLiteral value rest }
    | none =>
      match NumberPhase.start? octet with
      | some phase => .ok { reader with phase := .topNumber phase [octet] }
      | none => .error ⟨.expectedValue, .after⟩

/-- The step at the octet after a member. -/
def separate (reader : Reader) (octet : UInt8) : Except Refusal Reader :=
  if isBlank octet then .ok { reader with phase := .separator }
  else if octet = 0x2C then .ok { reader with phase := .nextKey }
  else if octet = 0x7D then .ok { reader with phase := .finished }
  else .error ⟨.expectedObjectEnd, .after⟩

/-- The reader after the value of a member. -/
def addMember (reader : Reader) (key raw : Octets) : Reader :=
  ⟨.separator, (key, raw.reverse) :: reader.members⟩

/-- The step at an octet of a value whose octets before it are given. -/
def scanValue (reader : Reader) (key : Octets) (scanner : Scanner) (raw : Octets)
    (octet : UInt8) : Except Refusal Reader :=
  match scanner.step octet with
  | .more next => .ok { reader with phase := .value key next (octet :: raw) }
  | .complete => .ok (reader.addMember key (octet :: raw))
  | .completeBefore => (reader.addMember key raw).separate octet
  | .refused refusal => .error refusal

/-- The step at an octet of a number in place of the object. -/
def scanTopNumber (reader : Reader) (phase : NumberPhase) (spelling : Octets)
    (octet : UInt8) : Except Refusal Reader :=
  match phase.step octet with
  | .more next =>
    let longer := octet :: spelling
    if next = .exponent ∧ (Numeral.ofSpelling longer.reverse).exponentTooGreat then
      .error ⟨.numberOutOfRange, .after⟩
    else .ok { reader with phase := .topNumber next longer }
  | .ended => .error ⟨(Numeral.ofSpelling spelling.reverse).refusal, .before⟩
  | .invalid => .error ⟨.invalidNumber, .after⟩

/-- The step at an octet. -/
def step (reader : Reader) (octet : UInt8) : Except Refusal Reader :=
  match reader.phase with
  | .document => if isBlank octet then .ok reader else reader.openDocument octet
  | .topLiteral value rest =>
    match rest with
    | [] => .error ⟨.expectedIdentifier, .after⟩
    | expected :: later =>
      if octet ≠ expected then .error ⟨.expectedIdentifier, .after⟩
      else if later.isEmpty then .error ⟨.notAnObject value, .after⟩
      else .ok { reader with phase := .topLiteral value later }
  | .topNumber phase spelling => reader.scanTopNumber phase spelling octet
  | .topString decoder =>
    match decoder.step octet with
    | .more next => .ok { reader with phase := .topString next }
    | .closed decoded => .error ⟨.notAnObject (.string decoded), .after⟩
    | .refused refusal => .error refusal
  | .firstKey =>
    if isBlank octet then .ok reader
    else if octet = 0x22 then .ok { reader with phase := .key .start }
    else if octet = 0x7D then .ok { reader with phase := .finished }
    else .error ⟨.keyNotString, .after⟩
  | .nextKey =>
    if isBlank octet then .ok reader
    else if octet = 0x22 then .ok { reader with phase := .key .start }
    else if octet = 0x7D then .error ⟨.trailingComma, .after⟩
    else .error ⟨.keyNotString, .after⟩
  | .key decoder =>
    match decoder.step octet with
    | .more next => .ok { reader with phase := .key next }
    | .closed decoded => .ok { reader with phase := .colon decoded }
    | .refused refusal => .error refusal
  | .colon key =>
    if isBlank octet then .ok reader
    else if octet = 0x3A then .ok { reader with phase := .beforeValue key }
    else .error ⟨.expectedColon, .after⟩
  | .beforeValue key =>
    if isBlank octet then .ok reader else reader.scanValue key .start [] octet
  | .value key scanner raw => reader.scanValue key scanner raw octet
  | .separator => reader.separate octet
  | .finished =>
    if isBlank octet then .ok reader else .error ⟨.trailingCharacters, .after⟩

/-- What the reader makes of the end of the input. -/
def finish (reader : Reader) : Except Cause Frame :=
  match reader.phase with
  | .document | .topLiteral _ _ | .nextKey | .beforeValue _ => .error .endInValue
  | .topNumber phase spelling =>
    if phase.isComplete then .error (Numeral.ofSpelling spelling.reverse).refusal
    else .error .endInValue
  | .topString _ | .key _ => .error .endInString
  | .firstKey | .colon _ | .separator => .error .endInObject
  | .value _ scanner _ => .error scanner.endCause
  | .finished => .ok ⟨reader.members.reverse⟩

/-- Reads the rest of a text of which a number of octets have been read. -/
def run (reader : Reader) (index : Nat) : Octets → Except Fault Frame
  | [] =>
    match reader.finish with
    | .ok frame => .ok frame
    | .error cause => .error ⟨cause, index⟩
  | octet :: rest =>
    match reader.step octet with
    | .ok next => next.run (index + 1) rest
    | .error refusal => .error ⟨refusal.cause, refusal.edge.position index⟩

end Reader

/-- Reads a text as a frame. -/
def Frame.read (text : Octets) : Except Fault Frame :=
  Reader.start.run 0 text

end Rendezvous.Json
