/-
# What is written is text

Messages are written octet by octet, and strings are escaped so. Only octets of ASCII are
ever escaped, and by ASCII; the octets of a character beyond it stay together. What is
written for texts is therefore a text again.
-/

import Mathlib.Data.List.Basic
import Rendezvous.Outgoing
import Rendezvous.Proofs.Alphabet

namespace Rendezvous

namespace Octets

/-- The octets are the UTF-8 form of a text. -/
def IsText (octets : Octets) : Prop := ∃ text, octets = ofText text

theorem ofText_ofList (chars : List Char) :
    ofText (.ofList chars) = chars.flatMap String.utf8EncodeChar := by
  simp [ofText, List.utf8Encode]

theorem isText_ofText (text : String) : IsText (ofText text) := ⟨text, rfl⟩

theorem IsText.append {front back : Octets} (first : IsText front) (rest : IsText back) :
    IsText (front ++ back) := by
  obtain ⟨text, rfl⟩ := first
  obtain ⟨text', rfl⟩ := rest
  exact ⟨text ++ text', by simp [ofText]⟩

theorem utf8EncodeChar_ofNat {octet : UInt8} (ascii : octet < 0x80) :
    String.utf8EncodeChar (Char.ofNat octet.toNat) = [octet] := by
  revert octet
  apply Json.forall_octet
  decide +kernel

theorem isText_of_ascii {octets : Octets} (ascii : ∀ octet ∈ octets, octet < 0x80) :
    IsText octets := by
  refine ⟨.ofList (octets.map fun octet => Char.ofNat octet.toNat), ?_⟩
  rw [ofText_ofList]
  induction octets with
  | nil => rfl
  | cons octet rest ih =>
      obtain ⟨here, later⟩ := List.forall_mem_cons.mp ascii
      rw [List.map_cons, List.flatMap_cons, utf8EncodeChar_ofNat here, ← ih later]
      rfl

/-- A character is one octet of ASCII, or all its octets are beyond. -/
theorem utf8EncodeChar_cases (char : Char) :
    (∃ octet < 0x80, String.utf8EncodeChar char = [octet]) ∨
      ∀ octet ∈ String.utf8EncodeChar char, 0x80 ≤ octet := by
  have beyond (number : Nat) (low : 128 ≤ number) (high : number < 256) :
      0x80 ≤ UInt8.ofNat number := by
    rw [UInt8.le_iff_toNat_le, UInt8.toNat_ofNat', Nat.mod_eq_of_lt high]
    exact low
  unfold String.utf8EncodeChar
  dsimp only
  split
  · next small =>
    left
    refine ⟨_, ?_, rfl⟩
    rw [UInt8.lt_iff_toNat_lt, UInt8.toNat_ofNat', Nat.mod_eq_of_lt (by omega)]
    exact Nat.lt_succ_of_le small
  · right
    split
    · simp only [List.forall_mem_cons]
      exact ⟨beyond _ (by omega) (by omega), beyond _ (by omega) (by omega), nofun⟩
    · split
      · simp only [List.forall_mem_cons]
        exact ⟨beyond _ (by omega) (by omega), beyond _ (by omega) (by omega),
          beyond _ (by omega) (by omega), nofun⟩
      · simp only [List.forall_mem_cons]
        exact ⟨beyond _ (by omega) (by omega), beyond _ (by omega) (by omega),
          beyond _ (by omega) (by omega), beyond _ (by omega) (by omega), nofun⟩

end Octets

namespace Json

open Octets

variable {text : Octets} {elements : List Octets} {members : List (String × Octets)}

/-! ## Strings -/

theorem escapeOctet_ascii {octet : UInt8} (ascii : octet < 0x80) :
    ∀ written ∈ escapeOctet octet, written < 0x80 := by
  revert octet
  apply forall_octet
  decide +kernel

theorem escapeOctet_of_beyond {octet : UInt8} (beyond : 0x80 ≤ octet) :
    escapeOctet octet = [octet] := by
  revert octet
  apply forall_octet
  decide +kernel

/-- A character is escaped as a whole or not at all. -/
theorem isText_escapedChar (char : Char) :
    IsText ((String.utf8EncodeChar char).flatMap escapeOctet) := by
  obtain ⟨octet, ascii, single⟩ | beyond := utf8EncodeChar_cases char
  · rw [single, List.flatMap_singleton]
    exact isText_of_ascii (escapeOctet_ascii ascii)
  · refine ⟨.ofList [char], ?_⟩
    rw [ofText_ofList, List.flatMap_singleton]
    calc
      _ = (String.utf8EncodeChar char).flatMap fun octet => [octet] :=
        List.flatMap_congr fun octet inside => escapeOctet_of_beyond (beyond octet inside)
      _ = String.utf8EncodeChar char := List.flatMap_singleton' _

theorem isText_escaped (text : String) : IsText ((ofText text).flatMap escapeOctet) := by
  rw [← String.ofList_toList (s := text), ofText_ofList]
  induction text.toList with
  | nil => exact isText_ofText ""
  | cons char rest ih =>
      rw [List.flatMap_cons, List.flatMap_append]
      exact (isText_escapedChar char).append ih

/-- An octet of ASCII may stand in front of a text. -/
theorem isText_cons {octet : UInt8} (ascii : octet < 0x80) (rest : IsText text) :
    IsText (octet :: text) :=
  (isText_of_ascii (List.forall_mem_singleton.mpr ascii)).append rest

theorem isText_snoc {octet : UInt8} (ascii : octet < 0x80) (front : IsText text) :
    IsText (text ++ [octet]) :=
  front.append (isText_of_ascii (List.forall_mem_singleton.mpr ascii))

theorem isText_writeString (text : String) : IsText (writeString (ofText text)) :=
  isText_snoc (by decide) (isText_cons (by decide) (isText_escaped text))

/-! ## Lists and objects -/

theorem isText_separated (texts : ∀ element ∈ elements, IsText element) :
    IsText (separated elements) := by
  induction elements with
  | nil => exact isText_ofText ""
  | cons element rest ih =>
      obtain ⟨here, later⟩ := List.forall_mem_cons.mp texts
      cases rest with
      | nil => exact here
      | cons next rest => exact here.append (isText_cons (by decide) (ih later))

theorem isText_writeList (texts : ∀ element ∈ elements, IsText element) :
    IsText (writeList elements) :=
  isText_snoc (by decide) (isText_cons (by decide) (isText_separated texts))

theorem isText_writeMember {value : Octets} (name : String) (isText : IsText value) :
    IsText (writeMember name value) :=
  (isText_writeString name).append (isText_cons (by decide) isText)

/-- An object of texts is one. -/
theorem isText_writeObject (texts : ∀ member ∈ members, IsText member.2) :
    IsText (writeObject members) := by
  apply isText_snoc (by decide) (isText_cons (by decide) (isText_separated _))
  intro element listed
  obtain ⟨member, inside, rfl⟩ := List.mem_map.mp listed
  exact isText_writeMember member.1 (texts member inside)

theorem isText_writeObject_singleton {value : Octets} (name : String) (isText : IsText value) :
    IsText (writeObject [(name, value)]) := by
  have texts : ∀ member ∈ [(name, value)], IsText member.2 := List.forall_mem_singleton.mpr isText
  exact isText_writeObject texts

end Json

end Rendezvous
