/-
# What a string says

A string says a text: most octets stand for themselves, an escape stands for the
character that it names, and two surrogates in a row stand for one character. A surrogate
that is not one of such a pair says nothing. The reader that decodes a string accepts
exactly the spellings of what it returns; this is shown with a language for each of its
states, as for the scanner.
-/

import Rendezvous.Proofs.Tokens

open scoped Computability

namespace Rendezvous.Json

/-- The spelling of one character, or of an octet of one, and what it stands for. -/
inductive Stands : Octets → Octets → Prop
  | plain {octet : UInt8} (visible : isPlain octet = true) : Stands [octet] [octet]
  | letter {letter meant : UInt8} (known : letterTable.lookup letter = some meant) :
    Stands [0x5C, letter] [meant]
  | unit {digits : Octets} {unit : Nat} (four : digits.length = 4) (written : Writes digits unit)
    (whole : unit < 0xD800 ∨ 0xDFFF < unit) :
    Stands (0x5C :: 0x75 :: digits) (Octets.ofChar (Char.ofNat unit))
  | pair {digits digits' : Octets} {high low : Nat} (four : digits.length = 4)
    (written : Writes digits high) (leading : 0xD800 ≤ high ∧ high ≤ 0xDBFF)
    (four' : digits'.length = 4) (written' : Writes digits' low)
    (trailing : 0xDC00 ≤ low ∧ low ≤ 0xDFFF) :
    Stands (0x5C :: 0x75 :: (digits ++ 0x5C :: 0x75 :: digits'))
      (Octets.ofChar (Char.ofNat (0x10000 + (high - 0xD800) * 0x400 + (low - 0xDC00))))

/-- What stands between the quotes of a string and the text that it says. -/
inductive Spells : Octets → Octets → Prop
  | nil : Spells [] []
  | cons {front meant back meaning : Octets} (first : Stands front meant)
    (rest : Spells back meaning) : Spells (front ++ back) (meant ++ meaning)

/-- The strings that say a text, with their quotes. -/
def spellings (meaning : Octets) : Language UInt8 :=
  {text | ∃ spelling, Spells spelling meaning ∧ text = 0x22 :: (spelling ++ [0x22])}

/-! ## What is still missing of a string -/

/-- The texts that say what is still missing from a text, up to the closing quote. What
has been said is given with the latest octet first. -/
def saying (said target : Octets) : Language UInt8 :=
  {text | ∃ spelling meaning, Spells spelling meaning ∧ target = said.reverse ++ meaning ∧
    text = spelling ++ [0x22]}

/-- What follows after a character. -/
def sayingAfter (point : Nat) (said target : Octets) : Language UInt8 :=
  saying ((Octets.ofChar (Char.ofNat point)).reverse ++ said) target

/-- What follows the second unit of a pair. -/
def afterTrailing (high : Nat) (said target : Octets) (low : Nat) : Language UInt8 :=
  if isTrailing low then sayingAfter (pairedPoint high low) said target else 0

/-- What follows the first unit of a pair. -/
def afterLeading (high : Nat) (said target : Octets) : Language UInt8 :=
  mark 0x5C * (mark 0x75 * unitThen [] (afterTrailing high said target))

/-- What follows a unit that is not the second of a pair. -/
def afterUnit (said target : Octets) (unit : Nat) : Language UInt8 :=
  if isTrailing unit then 0
  else if isLeading unit then afterLeading unit said target
  else sayingAfter unit said target

/-- What follows a backslash, if it is the escape of one letter. -/
def afterLetter (said target : Octets) : Language UInt8 :=
  {text | ∃ letter meant rest, letterTable.lookup letter = some meant ∧
    rest ∈ saying (meant :: said) target ∧ text = letter :: rest}

/-- What follows a backslash. -/
def afterBackslash (said target : Octets) : Language UInt8 :=
  afterLetter said target + mark 0x75 * unitThen [] (afterUnit said target)

namespace Decoder

/-- The texts that make a decoder end with the target. -/
def language (decoder : Decoder) (target : Octets) : Language UInt8 :=
  let said := decoder.decoded
  match decoder.phase with
  | .plain => saying said target
  | .escape => afterBackslash said target
  | .hex seen => unitThen seen (afterUnit said target)
  | .leading high => afterLeading high said target
  | .leadingEscape high => mark 0x75 * unitThen [] (afterTrailing high said target)
  | .trailing high seen => unitThen seen (afterTrailing high said target)

end Decoder

/-- The texts that make a decoder end with the target after a step. -/
def DecodeStep.language (target : Octets) : DecodeStep → Language UInt8
  | .more decoder => decoder.language target
  | .closed decoded => if target = decoded then 1 else 0
  | .refused _ => 0

variable {octet : UInt8} {text said target : Octets}

theorem mem_saying : text ∈ saying said target ↔
    (text = [0x22] ∧ target = said.reverse) ∨
      ∃ front meant rest, Stands front meant ∧ rest ∈ saying (meant.reverse ++ said) target ∧
        text = front ++ rest := by
  constructor
  · rintro ⟨spelling, meaning, spells, rfl, rfl⟩
    cases spells with
    | nil => exact .inl ⟨rfl, List.append_nil _⟩
    | @cons front meant back meaning first rest =>
        refine .inr ⟨front, meant, back ++ [0x22], first, ⟨back, meaning, rest, ?_, rfl⟩, ?_⟩
        · simp
        · exact List.append_assoc ..
  · rintro (⟨rfl, rfl⟩ | ⟨front, meant, -, first, ⟨spelling, meaning, spells, rfl, rfl⟩, rfl⟩)
    · exact ⟨[], [], .nil, (List.append_nil _).symm, rfl⟩
    · refine ⟨front ++ spelling, meant ++ meaning, .cons first spells, ?_, ?_⟩
      · simp
      · exact (List.append_assoc ..).symm

theorem nil_notMem_saying : [] ∉ saying said target := by
  rintro ⟨spelling, meaning, -, -, same⟩
  exact List.append_ne_nil_of_right_ne_nil spelling (List.cons_ne_nil _ _) same.symm

/-! ## Surrogates -/

section

variable {unit high : Nat}

theorem isTrailing_iff : isTrailing unit = true ↔ 0xDC00 ≤ unit ∧ unit ≤ 0xDFFF := by
  simp [isTrailing]

theorem isLeading_iff : isLeading unit = true ↔ 0xD800 ≤ unit ∧ unit ≤ 0xDBFF := by
  simp [isLeading]

/-- A trailing surrogate does not come first. -/
theorem afterUnit_of_trailing (trailing : 0xDC00 ≤ unit ∧ unit ≤ 0xDFFF) :
    afterUnit said target unit = 0 := by
  rw [afterUnit, if_pos (isTrailing_iff.mpr trailing)]

theorem afterUnit_of_leading (leading : 0xD800 ≤ unit ∧ unit ≤ 0xDBFF) :
    afterUnit said target unit = afterLeading unit said target := by
  have only : ¬ isTrailing unit = true := by
    rw [isTrailing_iff]
    omega
  rw [afterUnit, if_neg only, if_pos (isLeading_iff.mpr leading)]

theorem afterUnit_of_whole (whole : unit < 0xD800 ∨ 0xDFFF < unit) :
    afterUnit said target unit = sayingAfter unit said target := by
  have notSecond : ¬ isTrailing unit = true := by
    rw [isTrailing_iff]
    omega
  have notFirst : ¬ isLeading unit = true := by
    rw [isLeading_iff]
    omega
  rw [afterUnit, if_neg notSecond, if_neg notFirst]

theorem mem_mark_unitThen {next : Nat → Language UInt8} :
    text ∈ mark 0x75 * unitThen [] next ↔ ∃ digits unit rest, digits.length = 4 ∧
      Writes digits unit ∧ rest ∈ next unit ∧ text = 0x75 :: (digits ++ rest) := by
  constructor
  · rintro ⟨-, rfl, -, ⟨digits, unit, rest, four, known, here, rfl⟩, rfl⟩
    exact ⟨digits, unit, rest, four, hexNumber?_eq_some.mp known, here, rfl⟩
  · rintro ⟨digits, unit, rest, four, written, here, rfl⟩
    exact ⟨_, rfl, _, ⟨digits, unit, rest, four, hexNumber?_eq_some.mpr written, here, rfl⟩, rfl⟩

/-- After a leading surrogate there is the escape of a trailing one. -/
theorem mem_afterLeading : text ∈ afterLeading high said target ↔
    ∃ digits low rest, digits.length = 4 ∧ Writes digits low ∧ (0xDC00 ≤ low ∧ low ≤ 0xDFFF) ∧
      rest ∈ sayingAfter (pairedPoint high low) said target ∧
        text = 0x5C :: 0x75 :: (digits ++ rest) := by
  have trailing (low : Nat) (rest : Octets) : rest ∈ afterTrailing high said target low ↔
      (0xDC00 ≤ low ∧ low ≤ 0xDFFF) ∧ rest ∈ sayingAfter (pairedPoint high low) said target := by
    rw [← isTrailing_iff, afterTrailing]
    split <;> simp [*]
  constructor
  · rintro ⟨_, rfl, later, escape, rfl⟩
    obtain ⟨digits, low, rest, four, written, here, rfl⟩ := mem_mark_unitThen.mp escape
    obtain ⟨second, here⟩ := (trailing low rest).mp here
    exact ⟨digits, low, rest, four, written, second, here, rfl⟩
  · rintro ⟨digits, low, rest, four, written, second, here, rfl⟩
    have escape := mem_mark_unitThen.mpr
      ⟨digits, low, rest, four, written, (trailing low rest).mpr ⟨second, here⟩, rfl⟩
    exact ⟨_, rfl, _, escape, rfl⟩

/-- An escape with four digits and whatever has to follow it. -/
theorem exists_stands_unit {rest digits : Octets} (four : digits.length = 4)
    (written : Writes digits unit) (here : rest ∈ afterUnit said target unit) :
    ∃ front meant back, Stands front meant ∧ back ∈ saying (meant.reverse ++ said) target ∧
      0x5C :: 0x75 :: (digits ++ rest) = front ++ back := by
  have kinds : (0xDC00 ≤ unit ∧ unit ≤ 0xDFFF) ∨ (0xD800 ≤ unit ∧ unit ≤ 0xDBFF) ∨
      (unit < 0xD800 ∨ 0xDFFF < unit) := by omega
  rcases kinds with trailing | leading | whole
  · rw [afterUnit_of_trailing trailing] at here
    exact absurd here (Language.notMem_zero rest)
  · rw [afterUnit_of_leading leading] at here
    obtain ⟨digits', low, back, four', written', second, after, rfl⟩ := mem_afterLeading.mp here
    exact ⟨_, _, back, .pair four written leading four' written' second, after, by simp⟩
  · rw [afterUnit_of_whole whole] at here
    exact ⟨_, _, rest, .unit four written whole, here, rfl⟩

end

/-- A text goes on with an octet that stands for itself or with an escape, or its closing
quote comes. -/
theorem cons_mem_saying : octet :: text ∈ saying said target ↔
    (octet = 0x22 ∧ text = [] ∧ target = said.reverse) ∨
      (isPlain octet = true ∧ text ∈ saying (octet :: said) target) ∨
        (octet = 0x5C ∧ text ∈ afterBackslash said target) := by
  rw [mem_saying, List.cons.injEq, and_assoc]
  apply or_congr_right
  constructor
  · rintro ⟨front, meant, rest, stands, here, whole⟩
    cases stands with
    | plain visible =>
        cases whole
        exact .inl ⟨visible, here⟩
    | letter known =>
        cases whole
        exact .inr ⟨rfl, .inl ⟨_, _, _, known, here, rfl⟩⟩
    | @unit digits unit four written scalar =>
        cases whole
        refine .inr ⟨rfl, .inr (mem_mark_unitThen.mpr ⟨digits, unit, rest, four, written, ?_, rfl⟩)⟩
        rw [afterUnit_of_whole scalar]
        exact here
    | @pair digits digits' high low four written leading four' written' trailing =>
        cases whole
        refine .inr ⟨rfl, .inr (mem_mark_unitThen.mpr
          ⟨digits, high, 0x5C :: 0x75 :: (digits' ++ rest), four, written, ?_, by simp⟩)⟩
        rw [afterUnit_of_leading leading]
        exact mem_afterLeading.mpr ⟨digits', low, rest, four', written', trailing, here, rfl⟩
  · rintro (⟨visible, here⟩ | ⟨rfl, ⟨letter, meant, rest, known, here, rfl⟩ | escape⟩)
    · exact ⟨[octet], [octet], text, .plain visible, here, rfl⟩
    · exact ⟨[0x5C, letter], [meant], rest, .letter known, here, rfl⟩
    · obtain ⟨digits, unit, rest, four, written, here, rfl⟩ := mem_mark_unitThen.mp escape
      exact exists_stands_unit four written here

theorem cons_mem_afterLetter : octet :: text ∈ afterLetter said target ↔
    ∃ meant, escapedOctet? octet = some meant ∧ text ∈ saying (meant :: said) target := by
  rw [← letterTable_lookup]
  constructor
  · rintro ⟨letter, meant, rest, known, here, same⟩
    cases same
    exact ⟨meant, known, here⟩
  · rintro ⟨meant, known, here⟩
    exact ⟨octet, meant, text, known, here, rfl⟩

namespace Decoder

variable {decoder : Decoder}

theorem language_takeUnit (unit : Nat) :
    (decoder.takeUnit unit).language target = afterUnit decoder.decoded target unit := by
  unfold takeUnit afterUnit
  split
  · rfl
  split <;> rfl

theorem nil_notMem_language : [] ∉ decoder.language target := by
  obtain ⟨phase, said⟩ := decoder
  cases phase with
  | plain => exact nil_notMem_saying
  | escape =>
      rintro (⟨letter, meant, rest, -, -, same⟩ | unit)
      · cases same
      · exact nil_notMem_mul_left nil_notMem_mark unit
  | hex _ | trailing _ _ => exact nil_notMem_unitThen
  | leading _ | leadingEscape _ => exact nil_notMem_mul_left nil_notMem_mark

/-- One octet more of a string that is decoded. -/
theorem cons_mem_language : octet :: text ∈ decoder.language target ↔
    text ∈ (decoder.step octet).language target := by
  obtain ⟨phase, said⟩ := decoder
  cases phase with
  | plain =>
      rw [language, cons_mem_saying, isPlain_eq, step]
      by_cases quote : octet = 0x22
      · by_cases same : target = said.reverse <;>
          simp [quote, same, DecodeStep.language, Language.mem_one]
      by_cases backslash : octet = 0x5C
      · simp [backslash, DecodeStep.language, language]
      · cases control : isControl octet <;>
          simp [quote, backslash, DecodeStep.language, language, push]
  | escape =>
      rw [language, afterBackslash, Language.mem_add, cons_mem_afterLetter, cons_mem_mark_mul, step]
      by_cases unicode : octet = 0x75
      · simp [unicode, escapedOctet?, DecodeStep.language, language]
      · cases known : escapedOctet? octet <;>
          simp [unicode, DecodeStep.language, language, push]
  | hex seen =>
      rw [language, cons_mem_unitThen, step]
      by_cases short : seen.length < 3
      · simp [short, DecodeStep.language, language]
      · simp only [if_neg short]
        cases hexNumber? (octet :: seen).reverse with
        | none => simp [DecodeStep.language]
        | some unit => simp [language_takeUnit]
  | leading high =>
      rw [show language ⟨.leading high, said⟩ target = mark 0x5C * _ from rfl,
        cons_mem_mark_mul, step]
      by_cases backslash : octet = 0x5C <;> simp [backslash, DecodeStep.language, language]
  | leadingEscape high =>
      rw [language, cons_mem_mark_mul, step]
      by_cases unicode : octet = 0x75 <;> simp [unicode, DecodeStep.language, language]
  | trailing high seen =>
      rw [language, cons_mem_unitThen, step]
      by_cases short : seen.length < 3
      · simp [short, DecodeStep.language, language]
      · simp only [if_neg short]
        cases hexNumber? (octet :: seen).reverse with
        | none => simp [DecodeStep.language]
        | some low =>
            cases second : isTrailing low <;>
              simp [second, afterTrailing, sayingAfter, DecodeStep.language, language, pushPoint]

/-- A decoder that runs to its end has read a spelling of what it returns. -/
theorem finish?_eq_some {text : Octets} :
    decoder.finish? text = some target ↔ text ∈ decoder.language target := by
  induction text generalizing decoder with
  | nil => exact iff_of_false nofun nil_notMem_language
  | cons octet rest ih =>
      rw [cons_mem_language, finish?]
      cases decoder.step octet with
      | more next => exact ih
      | closed decoded =>
          by_cases same : target = decoded <;> cases rest <;>
            simp [DecodeStep.language, same, Language.mem_one, eq_comm]
      | refused refusal => simp [DecodeStep.language]

end Decoder

/-- A value decodes to a text where it is a string that says the text. -/
theorem decodeString?_eq_some {raw meaning : Octets} :
    decodeString? raw = some meaning ↔ raw ∈ spellings meaning := by
  constructor
  · intro decoded
    unfold decodeString? at decoded
    split at decoded
    · next rest =>
      obtain ⟨spelling, said, spells, rfl, rfl⟩ := Decoder.finish?_eq_some.mp decoded
      exact ⟨spelling, spells, rfl⟩
    · cases decoded
  · rintro ⟨spelling, spells, rfl⟩
    exact Decoder.finish?_eq_some.mpr ⟨spelling, meaning, spells, rfl, rfl⟩

end Rendezvous.Json
