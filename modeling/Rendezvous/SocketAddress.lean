/-
# Socket addresses

The address of a client is read in its usual spellings, a dotted quad or a
bracketed group form with a port, and always shown in one canonical spelling.
-/

namespace Rendezvous

/-- The address of one end of a connection. -/
inductive SocketAddress
  /-- Four octets and a port. -/
  | v4 (octets : List Nat) (port : Nat)
  /-- Eight groups of sixteen bits, the number of the interface, or nought, and a
  port. -/
  | v6 (groups : List Nat) (scope : Nat) (port : Nat)
  deriving DecidableEq, Repr

namespace SocketAddress

/-- The value of a digit in a base up to sixteen. -/
def digit? (base : Nat) (char : Char) : Option Nat :=
  let value :=
    if '0' ≤ char ∧ char ≤ '9' then some (char.toNat - 48)
    else if 'a' ≤ char ∧ char ≤ 'f' then some (char.toNat - 87)
    else if 'A' ≤ char ∧ char ≤ 'F' then some (char.toNat - 55)
    else none
  value.filter (· < base)

/-- The digits at the start of a text and what follows them. -/
def splitDigits (base : Nat) : List Char → List Nat × List Char
  | [] => ([], [])
  | char :: rest =>
    match digit? base char with
    | some value =>
      let (digits, after) := splitDigits base rest
      (value :: digits, after)
    | none => ([], char :: rest)

/-- How a number is spelled: its base, the most digits it may have, whether it may
start with a nought, and its greatest value. -/
structure Spelling where
  base : Nat
  mostDigits : Option Nat
  leadingNought : Bool
  greatest : Nat

/-- A part of a dotted quad. -/
def quadPart : Spelling := ⟨10, some 3, false, 255⟩

/-- A group of sixteen bits. -/
def groupPart : Spelling := ⟨16, some 4, true, 65535⟩

/-- A port. -/
def portPart : Spelling := ⟨10, none, true, 65535⟩

/-- The number of an interface. -/
def scopePart : Spelling := ⟨10, none, true, 4294967295⟩

/-- Reads a number at the start of a text. -/
def readNumber (spelling : Spelling) (text : List Char) : Option (Nat × List Char) :=
  let (digits, rest) := splitDigits spelling.base text
  let value := digits.foldl (fun sum digit => spelling.base * sum + digit) 0
  let tooMany := spelling.mostDigits.any (· < digits.length)
  let badNought := !spelling.leadingNought && digits.head? = some 0 && 1 < digits.length
  if digits.isEmpty || tooMany || badNought || spelling.greatest < value then none
  else some (value, rest)

/-- Reads one given character. -/
def readChar (expected : Char) : List Char → Option (List Char)
  | [] => none
  | char :: rest => if char = expected then some rest else none

/-- Reads a dotted quad. -/
def readQuad (text : List Char) : Option (List Nat × List Char) := do
  let (a, text) ← readNumber quadPart text
  let (b, text) ← readNumber quadPart (← readChar '.' text)
  let (c, text) ← readNumber quadPart (← readChar '.' text)
  let (d, text) ← readNumber quadPart (← readChar '.' text)
  return ([a, b, c, d], text)

/-- The two groups that a dotted quad stands for. -/
def groupsOfQuad : List Nat → List Nat
  | [a, b, c, d] => [256 * a + b, 256 * c + d]
  | _ => []

/-- Reads up to a number of groups with colons between them, the last two of which
may be spelled as a dotted quad; says whether they were. -/
def readGroups : Nat → Bool → List Char → List Nat × Bool × List Char
  | 0, _, text => ([], false, text)
  | room + 1, isFirst, text =>
    let start := if isFirst then some text else readChar ':' text
    match (if room = 0 then none else start.bind readQuad) with
    | some (quad, rest) => (groupsOfQuad quad, true, rest)
    | none =>
      match start.bind (readNumber groupPart) with
      | none => ([], false, text)
      | some (group, rest) =>
        let (groups, quad, after) := readGroups room false rest
        (group :: groups, quad, after)

/-- Reads eight groups, of which one run may be left out at a double colon. -/
def readSixteen (text : List Char) : Option (List Nat × List Char) :=
  let (head, quad, rest) := readGroups 8 true text
  if head.length = 8 then some (head, rest)
  else if quad then none
  else
    match (readChar ':' rest).bind (readChar ':') with
    | none => none
    | some rest =>
      let (tail, _, rest) := readGroups (7 - head.length) true rest
      some (head ++ List.replicate (8 - head.length - tail.length) 0 ++ tail, rest)

/-- Reads the port at the end of an address. -/
def readPort (text : List Char) : Option Nat := do
  let (port, rest) ← readNumber portPart (← readChar ':' text)
  if rest.isEmpty then some port else none

/-- Reads the number of an interface, if there is one. -/
def readScope (text : List Char) : Nat × List Char :=
  ((readChar '%' text).bind (readNumber scopePart)).getD (0, text)

/-- Reads an address. -/
def parse? (text : String) : Option SocketAddress :=
  match text.toList with
  | '[' :: bracketed => do
    let (groups, rest) ← readSixteen bracketed
    let (scope, rest) := readScope rest
    let port ← readPort (← readChar ']' rest)
    return .v6 groups scope port
  | plain => do
    let (octets, rest) ← readQuad plain
    return .v4 octets (← readPort rest)

/-- A dotted quad. -/
def showQuad (octets : List Nat) : String :=
  String.intercalate "." (octets.map toString)

/-- Groups in lower-case hexadecimal with colons between them. -/
def showGroups (groups : List Nat) : String :=
  String.intercalate ":" (groups.map fun group => String.ofList (Nat.toDigits 16 group))

/-- The start and the length of the longest run of noughts, the first of equal
ones. -/
def longestRun (groups : List Nat) : Nat × Nat :=
  let step := fun ((index, current, best) : Nat × (Nat × Nat) × (Nat × Nat)) group =>
    if group = 0 then
      let run := if current.2 = 0 then (index, 1) else (current.1, current.2 + 1)
      (index + 1, run, if best.2 < run.2 then run else best)
    else (index + 1, (0, 0), best)
  (groups.foldl step (0, (0, 0), (0, 0))).2.2

/-- Eight groups, with the longest run of at least two noughts left out. -/
def showSixteen (groups : List Nat) : String :=
  match groups with
  | [0, 0, 0, 0, 0, 65535, high, low] =>
    "::ffff:" ++ showQuad [high / 256, high % 256, low / 256, low % 256]
  | _ =>
    let (start, length) := longestRun groups
    if 1 < length then
      showGroups (groups.take start) ++ "::" ++ showGroups (groups.drop (start + length))
    else showGroups groups

/-- The canonical spelling. -/
def toText : SocketAddress → String
  | .v4 octets port => showQuad octets ++ ":" ++ toString port
  | .v6 groups scope port =>
    let interface := if scope = 0 then "" else "%" ++ toString scope
    "[" ++ showSixteen groups ++ interface ++ "]:" ++ toString port

/-- The address taken where none is given. -/
def loopback : SocketAddress := .v4 [127, 0, 0, 1] 9000

end SocketAddress

end Rendezvous
