/-
# What is still missing of a token

Every phase of a number or of a string has a language: the texts that complete the token
from there. One octet leads to the phase whose language is what may follow the octet, and
a number may end where the language of its phase has the empty text. So the grammar and
the steps of a phase say the same, octet by octet.
-/

import Rendezvous.Proofs.Grammar

open scoped Computability

namespace Rendezvous.Json

variable {octet : UInt8} {text : Octets} {rest : Language UInt8}

/-! ## Numbers -/

namespace NumberPhase

/-- The texts that complete a number. -/
def language : NumberPhase → Language UInt8
  | .minus => wholeDigits * (fractionDigits * exponentDigits)
  | .zero => fractionDigits * exponentDigits
  | .whole => (oneOf isDigit)∗ * (fractionDigits * exponentDigits)
  | .point => digits * exponentDigits
  | .fraction => (oneOf isDigit)∗ * exponentDigits
  | .exponentMark => signedDigits
  | .exponentSign => digits
  | .exponent => (oneOf isDigit)∗

end NumberPhase

/-- The texts that complete a number after a step. -/
def NumberStep.language : NumberStep → Language UInt8
  | .more phase => phase.language
  | .ended | .invalid => 0

theorem digit_eq : digit = oneOf isDigit := congrArg oneOf among_digits

theorem cons_mem_digits : octet :: text ∈ digits ↔
    isDigit octet = true ∧ text ∈ (oneOf isDigit)∗ := by
  rw [digits, digit_eq, cons_mem_oneOf_mul]

theorem nil_notMem_digits : [] ∉ digits := nil_notMem_mul_left nil_notMem_oneOf

theorem cons_mem_exponentDigits : octet :: text ∈ exponentDigits ↔
    (octet = 0x65 ∨ octet = 0x45) ∧ text ∈ signedDigits := by
  simp only [exponentDigits, among_exponents, Language.mem_add, Language.mem_one, reduceCtorEq,
    false_or, cons_mem_oneOf_mul, Bool.or_eq_true, decide_eq_true_eq]

theorem nil_mem_exponentDigits : [] ∈ exponentDigits := .inl rfl

/-- After the digits before the point. -/
theorem cons_mem_fraction_exponent : octet :: text ∈ fractionDigits * exponentDigits ↔
    text ∈ (NumberPhase.afterWhole octet).language := by
  have either : octet :: text ∈ fractionDigits * exponentDigits ↔
      octet :: text ∈ exponentDigits ∨ octet = 0x2E ∧ text ∈ digits * exponentDigits := by
    rw [fractionDigits, add_mul, one_mul, mul_assoc, Language.mem_add, cons_mem_mark_mul]
  rw [either, cons_mem_exponentDigits, NumberPhase.afterWhole]
  by_cases point : octet = 0x2E
  · subst point
    simp [NumberStep.language, NumberPhase.language]
  by_cases letter : octet = 0x65 ∨ octet = 0x45
  · have marked : (octet = 0x65 || octet = 0x45) = true := by simpa using letter
    simp only [point, letter, if_pos marked, if_false, false_and, true_and, or_false]
    rfl
  · have unmarked : ¬ (octet = 0x65 || octet = 0x45) = true := by simpa using letter
    simp only [point, letter, if_neg unmarked, if_false, false_and, or_false]
    rfl

theorem nil_mem_fraction_exponent : [] ∈ fractionDigits * exponentDigits :=
  nil_mem_mul.mpr ⟨.inl rfl, nil_mem_exponentDigits⟩

/-- A digit does not mark an exponent. -/
theorem not_mark_of_isDigit (digit : isDigit octet = true) :
    ¬ (octet = 0x65 ∨ octet = 0x45) := by
  rintro (rfl | rfl) <;> cases digit

theorem not_sign_of_isDigit (digit : isDigit octet = true) :
    ¬ (octet = 0x2B ∨ octet = 0x2D) := by
  rintro (rfl | rfl) <;> cases digit

theorem afterWhole_of_isDigit (digit : isDigit octet = true) :
    NumberPhase.afterWhole octet = .ended := by
  have unpointed : octet ≠ 0x2E := by
    rintro rfl
    cases digit
  have unmarked := not_mark_of_isDigit digit
  simp [NumberPhase.afterWhole, unpointed, unmarked]

theorem cons_mem_wholeDigits_mul : octet :: text ∈ wholeDigits * rest ↔
    octet = 0x30 ∧ text ∈ rest ∨
      (isDigit octet = true ∧ octet ≠ 0x30) ∧ text ∈ (oneOf isDigit)∗ * rest := by
  rw [wholeDigits, among_nonzero, digit_eq, add_mul, mul_assoc, Language.mem_add,
    cons_mem_mark_mul, cons_mem_oneOf_mul, Bool.and_eq_true, bne_iff_ne]

theorem nil_notMem_wholeDigits : [] ∉ wholeDigits := by
  rintro (here | here)
  · exact nil_notMem_mark here
  · exact nil_notMem_mul_left nil_notMem_oneOf here

theorem cons_mem_signedDigits : octet :: text ∈ signedDigits ↔
    isDigit octet = true ∧ text ∈ (oneOf isDigit)∗ ∨
      (octet = 0x2B ∨ octet = 0x2D) ∧ text ∈ digits := by
  rw [signedDigits, among_signs, add_mul, one_mul, Language.mem_add, cons_mem_digits,
    cons_mem_oneOf_mul, Bool.or_eq_true, decide_eq_true_eq, decide_eq_true_eq]

namespace NumberPhase

/-- A number may end where its phase is complete. -/
theorem nil_mem_language (phase : NumberPhase) :
    [] ∈ phase.language ↔ phase.isComplete = true := by
  cases phase with
  | minus => exact iff_of_false (nil_notMem_mul_left nil_notMem_wholeDigits) nofun
  | zero => exact iff_of_true nil_mem_fraction_exponent rfl
  | whole => exact iff_of_true (nil_mem_kstar_mul.mpr nil_mem_fraction_exponent) rfl
  | point => exact iff_of_false (nil_notMem_mul_left nil_notMem_digits) nofun
  | fraction => exact iff_of_true (nil_mem_kstar_mul.mpr nil_mem_exponentDigits) rfl
  | exponentMark => exact iff_of_false (nil_notMem_mul_right nil_notMem_digits) nofun
  | exponentSign => exact iff_of_false nil_notMem_digits nofun
  | exponent => exact iff_of_true (Language.nil_mem_kstar _) rfl

/-- One octet more of a number. -/
theorem cons_mem_language (phase : NumberPhase) :
    octet :: text ∈ phase.language ↔ text ∈ (phase.step octet).language := by
  cases phase with
  | minus =>
      rw [language, cons_mem_wholeDigits_mul, step]
      by_cases zero : octet = 0x30
      · simp [zero, NumberStep.language, language]
      · cases digit : isDigit octet <;> simp [zero, NumberStep.language, language]
  | zero =>
      rw [language, cons_mem_fraction_exponent, step]
      cases digit : isDigit octet with
      | true => rw [afterWhole_of_isDigit digit]; rfl
      | false => rfl
  | whole =>
      rw [language, cons_mem_kstar_mul, cons_mem_fraction_exponent, step]
      cases digit : isDigit octet with
      | true => rw [afterWhole_of_isDigit digit]; simp [NumberStep.language, language]
      | false => simp
  | point =>
      rw [language, digits, digit_eq, mul_assoc, cons_mem_oneOf_mul, step]
      cases digit : isDigit octet <;> simp [NumberStep.language, language]
  | fraction =>
      rw [language, cons_mem_kstar_mul, cons_mem_exponentDigits, step]
      cases digit : isDigit octet with
      | true => simp [not_mark_of_isDigit digit, NumberStep.language, language]
      | false =>
          by_cases marked : octet = 0x65 ∨ octet = 0x45 <;>
            simp [marked, NumberStep.language, language]
  | exponentMark =>
      rw [language, cons_mem_signedDigits, step]
      cases digit : isDigit octet with
      | true => simp [not_sign_of_isDigit digit, NumberStep.language, language]
      | false =>
          by_cases signed : octet = 0x2B ∨ octet = 0x2D <;>
            simp [signed, NumberStep.language, language]
  | exponentSign =>
      rw [language, cons_mem_digits, step]
      cases digit : isDigit octet <;> simp [NumberStep.language, language]
  | exponent =>
      rw [language, ← mul_one (oneOf isDigit)∗, cons_mem_kstar_mul, step]
      cases digit : isDigit octet <;> simp [NumberStep.language, language, Language.mem_one]

end NumberPhase

theorem cons_mem_number : octet :: text ∈ number ↔
    ∃ phase, NumberPhase.start? octet = some phase ∧ text ∈ phase.language := by
  rw [number, add_mul, one_mul, Language.mem_add, cons_mem_mark_mul, cons_mem_wholeDigits_mul,
    NumberPhase.start?]
  by_cases minus : octet = 0x2D
  · subst minus
    simp [NumberPhase.language, isDigit]
  by_cases zero : octet = 0x30
  · subst zero
    simp [NumberPhase.language]
  · cases digit : isDigit octet <;> simp [minus, zero, NumberPhase.language]

theorem nil_notMem_number : [] ∉ number :=
  nil_notMem_mul_right (nil_notMem_mul_left nil_notMem_wholeDigits)

/-! ## Strings -/

/-- The hexadecimal digits that are missing from an escape, at least one, and then what may
follow the number that the digits write. -/
def unitThen (seen : Octets) (next : Nat → Language UInt8) : Language UInt8 :=
  {text | ∃ digits unit rest, digits.length = max 1 (4 - seen.length) ∧
    hexNumber? (seen.reverse ++ digits) = some unit ∧ rest ∈ next unit ∧ text = digits ++ rest}

/-- The texts that complete a string, the closing quote included. -/
def ScanPhase.language : ScanPhase → Language UInt8
  | .plain => characters * mark 0x22
  | .escape => escapes * (characters * mark 0x22)
  | .hex seen => unitThen seen fun _ => characters * mark 0x22

/-- The texts that complete a string after a step. -/
def ScanStep.language : ScanStep → Language UInt8
  | .more phase => phase.language
  | .closed => 1
  | .refused _ => 0

section

variable {seen : Octets} {next : Nat → Language UInt8}

theorem nil_notMem_unitThen : [] ∉ unitThen seen next := by
  rintro ⟨digits, unit, rest, length, -, -, whole⟩
  obtain ⟨rfl, -⟩ := List.append_eq_nil_iff.mp whole.symm
  rw [List.length_nil] at length
  omega

/-- One octet more of an escape. -/
theorem cons_mem_unitThen : octet :: text ∈ unitThen seen next ↔
    if seen.length < 3 then text ∈ unitThen (octet :: seen) next
    else ∃ unit, hexNumber? (octet :: seen).reverse = some unit ∧ text ∈ next unit := by
  have lengths (digits : Octets) : (octet :: digits).length = max 1 (4 - seen.length) ↔
      if seen.length < 3 then digits.length = max 1 (4 - (octet :: seen).length)
      else digits = [] := by
    rw [List.length_cons, List.length_cons]
    split
    · omega
    · rw [← List.length_eq_zero_iff]
      omega
  have first : octet :: text ∈ unitThen seen next ↔ ∃ digits unit rest,
      (octet :: digits).length = max 1 (4 - seen.length) ∧
        hexNumber? (seen.reverse ++ octet :: digits) = some unit ∧ rest ∈ next unit ∧
          text = digits ++ rest := by
    constructor
    · rintro ⟨digits, unit, rest, length, known, here, whole⟩
      cases digits with
      | nil =>
          rw [List.length_nil] at length
          omega
      | cons digit digits =>
          cases whole
          exact ⟨digits, unit, rest, length, known, here, rfl⟩
    · rintro ⟨digits, unit, rest, length, known, here, rfl⟩
      exact ⟨octet :: digits, unit, rest, length, known, here, rfl⟩
  have shift (digits : Octets) :
      seen.reverse ++ octet :: digits = (octet :: seen).reverse ++ digits := by
    simp
  simp only [first, lengths, shift]
  split
  · rfl
  · constructor
    · rintro ⟨digits, unit, rest, rfl, known, here, rfl⟩
      rw [List.append_nil] at known
      exact ⟨unit, known, here⟩
    · rintro ⟨unit, known, here⟩
      exact ⟨[], unit, text, rfl, by rwa [List.append_nil], here, rfl⟩

theorem hexDigits_mul : hexDigits * rest = unitThen [] fun _ => rest := by
  ext text
  constructor
  · rintro ⟨digits, ⟨length, unit, writes⟩, rest, here, rfl⟩
    exact ⟨digits, unit, rest, length, hexNumber?_eq_some.mpr writes, here, rfl⟩
  · rintro ⟨digits, unit, rest, length, known, here, rfl⟩
    exact ⟨digits, ⟨length, unit, hexNumber?_eq_some.mp known⟩, rest, here, rfl⟩

end

namespace ScanPhase

theorem nil_notMem_language (phase : ScanPhase) : [] ∉ phase.language := by
  have quote : [] ∉ characters * mark 0x22 := nil_notMem_mul_right nil_notMem_mark
  cases phase with
  | plain => exact quote
  | escape => exact nil_notMem_mul_right quote
  | hex seen => exact nil_notMem_unitThen

/-- A string goes on with an octet that stands for itself or with an escape, or its
closing quote comes. -/
theorem language_plain : plain.language =
    oneOf isPlain * plain.language + mark 0x5C * escape.language + mark 0x22 * 1 :=
  calc characters * mark 0x22
    _ = (oneOf isPlain + mark 0x5C * escapes) * (characters * mark 0x22) + mark 0x22 :=
      kstar_mul _ _
    _ = _ := by
      rw [add_mul, mul_assoc (mark 0x5C), mul_one]
      rfl

/-- One octet more of a string. -/
theorem cons_mem_language (phase : ScanPhase) :
    octet :: text ∈ phase.language ↔ text ∈ (phase.step octet).language := by
  cases phase with
  | plain =>
      rw [language_plain, Language.mem_add, Language.mem_add, cons_mem_oneOf_mul,
        cons_mem_mark_mul, cons_mem_mark_mul, isPlain_eq, step]
      by_cases quote : octet = 0x22
      · simp [quote, ScanStep.language, Language.mem_one]
      by_cases backslash : octet = 0x5C
      · simp [backslash, ScanStep.language]
      · cases control : isControl octet <;>
          simp [quote, backslash, ScanStep.language]
  | escape =>
      rw [language, escapes, add_mul, Language.mem_add, cons_mem_oneOf_mul, mul_assoc,
        cons_mem_mark_mul, hexDigits_mul, letterTable_lookup, step]
      by_cases unicode : octet = 0x75
      · simp [unicode, escapedOctet?, ScanStep.language, language]
      · cases known : (escapedOctet? octet).isSome <;>
          simp [unicode, ScanStep.language, language]
  | hex seen =>
      rw [language, cons_mem_unitThen, step]
      by_cases short : seen.length < 3
      · simp [short, ScanStep.language, language]
      · cases known : hexNumber? (octet :: seen).reverse <;>
          simp [short, ScanStep.language, language]

end ScanPhase

end Rendezvous.Json
