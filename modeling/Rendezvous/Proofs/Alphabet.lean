/-
# Classes of octets

The grammar of frames is written with characters: which ones are blanks, digits, letters
of an escape. Here such classes are given by the texts that list them, and each is shown
to be the class that the readers test for.
-/

import Mathlib.Data.List.Induction
import Rendezvous.Json.Value

namespace Rendezvous.Json

/-- Whether an octet is one of the characters of a text. -/
def among (characters : String) (octet : UInt8) : Bool :=
  octet ∈ Octets.ofText characters

/-- What holds of each of the octets one by one holds of all. -/
theorem forall_octet {holds : UInt8 → Prop} (each : ∀ octet : Fin 256, holds (.ofFin octet))
    (octet : UInt8) : holds octet :=
  each octet.toFin

theorem among_blanks : among " \t\n\r" = isBlank := by
  have listed : Octets.ofText " \t\n\r" = [0x20, 0x09, 0x0A, 0x0D] := by decide
  funext octet
  simp [among, listed, isBlank, Bool.or_assoc]

theorem among_digits : among "0123456789" = isDigit := by
  have listed : Octets.ofText "0123456789" =
      [0x30, 0x31, 0x32, 0x33, 0x34, 0x35, 0x36, 0x37, 0x38, 0x39] := by decide
  funext octet
  rw [among, listed]
  revert octet
  apply forall_octet
  decide +kernel

theorem among_nonzero :
    among "123456789" = fun octet => isDigit octet && octet != 0x30 := by
  have listed : Octets.ofText "123456789" =
      [0x31, 0x32, 0x33, 0x34, 0x35, 0x36, 0x37, 0x38, 0x39] := by decide
  funext octet
  rw [among, listed]
  revert octet
  apply forall_octet
  decide +kernel

theorem among_signs : among "+-" = fun octet => octet = 0x2B || octet = 0x2D := by
  have listed : Octets.ofText "+-" = [0x2B, 0x2D] := by decide
  funext octet
  simp [among, listed]

theorem among_exponents : among "eE" = fun octet => octet = 0x65 || octet = 0x45 := by
  have listed : Octets.ofText "eE" = [0x65, 0x45] := by decide
  funext octet
  simp [among, listed]

/-- The octets of a string that stand for themselves: neither the quote nor the backslash
nor a control. -/
def isPlain (octet : UInt8) : Bool :=
  !among "\"\\" octet && 0x20 ≤ octet

theorem isPlain_eq (octet : UInt8) :
    isPlain octet = (octet != 0x22 && octet != 0x5C && !isControl octet) := by
  have listed : Octets.ofText "\"\\" = [0x22, 0x5C] := by decide
  rw [isPlain, among, listed]
  revert octet
  apply forall_octet
  decide +kernel

/-! ## Escapes -/

/-- The letters of the short escapes, each with the octet that it stands for. -/
def letterTable : List (UInt8 × UInt8) :=
  (Octets.ofText "\"\\/bfnrt").zip (Octets.ofText "\"\\/\x08\x0C\n\r\t")

theorem letterTable_lookup (letter : UInt8) :
    letterTable.lookup letter = escapedOctet? letter := by
  have letters : Octets.ofText "\"\\/bfnrt" = [0x22, 0x5C, 0x2F, 0x62, 0x66, 0x6E, 0x72, 0x74] := by
    decide
  have meant : Octets.ofText "\"\\/\x08\x0C\n\r\t" =
      [0x22, 0x5C, 0x2F, 0x08, 0x0C, 0x0A, 0x0D, 0x09] := by decide
  rw [letterTable, letters, meant]
  revert letter
  apply forall_octet
  decide +kernel

/-- The hexadecimal digits of both cases, each with its value. -/
def hexTable : List (UInt8 × Nat) :=
  (Octets.ofText "0123456789abcdef").zipIdx ++ (Octets.ofText "ABCDEF").zipIdx 10

theorem hexTable_lookup (digit : UInt8) : hexTable.lookup digit = hexValue? digit := by
  have lower : Octets.ofText "0123456789abcdef" = [0x30, 0x31, 0x32, 0x33, 0x34, 0x35, 0x36,
      0x37, 0x38, 0x39, 0x61, 0x62, 0x63, 0x64, 0x65, 0x66] := by decide
  have upper : Octets.ofText "ABCDEF" = [0x41, 0x42, 0x43, 0x44, 0x45, 0x46] := by decide
  rw [hexTable, lower, upper]
  revert digit
  apply forall_octet
  decide +kernel

/-- The number that hexadecimal digits write. -/
inductive Writes : Octets → Nat → Prop
  | nil : Writes [] 0
  | snoc {digits : Octets} {digit : UInt8} {high low : Nat} (before : Writes digits high)
    (last : hexTable.lookup digit = some low) : Writes (digits ++ [digit]) (16 * high + low)

theorem hexNumber?_snoc (digits : Octets) (digit : UInt8) :
    hexNumber? (digits ++ [digit]) = (hexNumber? digits).bind fun high =>
      (hexValue? digit).map fun low => 16 * high + low := by
  rw [hexNumber?, List.foldl_append]
  rfl

theorem hexNumber?_eq_some {digits : Octets} {number : Nat} :
    hexNumber? digits = some number ↔ Writes digits number := by
  constructor
  · intro known
    induction digits using List.reverseRecOn generalizing number with
    | nil =>
        cases known
        exact .nil
    | append_singleton digits digit ih =>
        rw [hexNumber?_snoc, Option.bind_eq_some_iff] at known
        obtain ⟨high, before, last⟩ := known
        obtain ⟨low, value, rfl⟩ := Option.map_eq_some_iff.mp last
        exact .snoc (ih before) ((hexTable_lookup digit).trans value)
  · intro writes
    induction writes with
    | nil => rfl
    | @snoc digits digit high low before last ih =>
        rw [hexNumber?_snoc, ih, ← hexTable_lookup, last]
        rfl

/-! ## Brackets -/

namespace Container

/-- The octets that open and close. -/
def brackets : Container → UInt8 × UInt8
  | .list => (0x5B, 0x5D)
  | .object => (0x7B, 0x7D)

theorem brackets_snd (container : Container) : container.brackets.2 = container.closing := by
  cases container <;> rfl

end Container

end Rendezvous.Json
