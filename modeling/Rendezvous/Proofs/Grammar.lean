/-
# The grammar of values

Which texts are values is said here without a machine: by languages in the sense of
formal language theory, with union, concatenation and Kleene star, and by one inductive
family for the parts of a value that contain each other. Blanks may stand around every
token. The equations between the languages say how a part is put together, and what a
text of a language begins with is said by looking at its first octet.
-/

import Mathlib.Computability.Language
import Rendezvous.Proofs.Alphabet

open scoped Computability

namespace Rendezvous.Json

/-! ## Texts by their first octet -/

/-- The texts of one octet that is of a class. -/
def oneOf (accepts : UInt8 → Bool) : Language UInt8 :=
  {text | ∃ octet, accepts octet = true ∧ text = [octet]}

/-- The text of one given octet. -/
def mark (octet : UInt8) : Language UInt8 := {[octet]}

section

variable {first : Language UInt8} {rest left : Language UInt8} {octet expected : UInt8}
  {text : Octets} {accepts : UInt8 → Bool}

theorem nil_mem_mul : [] ∈ first * rest ↔ [] ∈ first ∧ [] ∈ rest := by
  rw [Language.mem_mul]
  constructor
  · rintro ⟨front, here, back, there, whole⟩
    obtain ⟨rfl, rfl⟩ := List.append_eq_nil_iff.mp whole
    exact ⟨here, there⟩
  · rintro ⟨here, there⟩
    exact ⟨[], here, [], there, rfl⟩

theorem nil_notMem_mul_left (some : [] ∉ first) : [] ∉ first * rest := fun empty =>
  some (nil_mem_mul.mp empty).1

theorem nil_notMem_mul_right (some : [] ∉ rest) : [] ∉ first * rest := fun empty =>
  some (nil_mem_mul.mp empty).2

/-- The first octet of a text in a product belongs to the first factor, unless that
contributes nothing. What is left of the first factor is given by another language. -/
theorem cons_mem_mul (step : ∀ text, octet :: text ∈ first ↔ text ∈ left) :
    octet :: text ∈ first * rest ↔
      ([] ∈ first ∧ octet :: text ∈ rest) ∨ text ∈ left * rest := by
  rw [Language.mem_mul, Language.mem_mul]
  constructor
  · rintro ⟨front, here, back, there, whole⟩
    rcases List.append_eq_cons_iff.mp whole with ⟨rfl, rfl⟩ | ⟨front, rfl, rfl⟩
    · exact .inl ⟨here, there⟩
    · exact .inr ⟨front, (step front).mp here, back, there, rfl⟩
  · rintro (⟨here, there⟩ | ⟨front, here, back, there, rfl⟩)
    · exact ⟨[], here, octet :: text, there, rfl⟩
    · exact ⟨octet :: front, (step front).mpr here, back, there, rfl⟩

theorem cons_mem_mul_of_nil_notMem (step : ∀ text, octet :: text ∈ first ↔ text ∈ left)
    (some : [] ∉ first) : octet :: text ∈ first * rest ↔ text ∈ left * rest := by
  rw [cons_mem_mul step]
  simp [some]

@[simp] theorem nil_notMem_oneOf : [] ∉ oneOf accepts := by
  rintro ⟨octet, -, same⟩
  cases same

@[simp] theorem nil_notMem_mark : [] ∉ mark expected := by
  intro same
  cases same

@[simp] theorem cons_mem_oneOf_mul :
    octet :: text ∈ oneOf accepts * rest ↔ accepts octet = true ∧ text ∈ rest := by
  rw [Language.mem_mul]
  constructor
  · rintro ⟨front, ⟨other, accepted, rfl⟩, back, there, whole⟩
    cases whole
    exact ⟨accepted, there⟩
  · rintro ⟨accepted, there⟩
    exact ⟨[octet], ⟨octet, accepted, rfl⟩, text, there, rfl⟩

theorem mark_eq_oneOf (expected : UInt8) : mark expected = oneOf (· = expected) := by
  ext text
  constructor
  · rintro rfl
    exact ⟨expected, by simp, rfl⟩
  · rintro ⟨octet, same, rfl⟩
    rw [of_decide_eq_true same]
    rfl

@[simp] theorem cons_mem_mark_mul :
    octet :: text ∈ mark expected * rest ↔ octet = expected ∧ text ∈ rest := by
  rw [mark_eq_oneOf, cons_mem_oneOf_mul, decide_eq_true_iff]

@[simp] theorem nil_mem_kstar_mul : [] ∈ first∗ * rest ↔ [] ∈ rest := by
  rw [nil_mem_mul]
  exact and_iff_right (Language.nil_mem_kstar first)

/-- A run of parts goes on with one more part, or it is over. -/
theorem kstar_mul (first rest : Language UInt8) :
    first∗ * rest = first * (first∗ * rest) + rest := by
  conv_lhs => rw [← Language.one_add_self_mul_kstar_eq_kstar first]
  rw [add_mul, one_mul, mul_assoc, add_comm]

theorem cons_mem_kstar_mul : octet :: text ∈ (oneOf accepts)∗ * rest ↔
    accepts octet = true ∧ text ∈ (oneOf accepts)∗ * rest ∨ octet :: text ∈ rest := by
  conv_lhs => rw [kstar_mul]
  rw [Language.mem_add, cons_mem_oneOf_mul]

end

/-! ## Tokens -/

/-- Blanks between tokens. -/
def blanks : Language UInt8 := (oneOf (among " \t\n\r"))∗

/-- One digit. -/
def digit : Language UInt8 := oneOf (among "0123456789")

/-- One digit or more. -/
def digits : Language UInt8 := digit * digit∗

/-- A number before its point: no nought stands in front of other digits. -/
def wholeDigits : Language UInt8 := mark 0x30 + oneOf (among "123456789") * digit∗

/-- The digits after a point, if there is one. -/
def fractionDigits : Language UInt8 := 1 + mark 0x2E * digits

/-- The digits after the sign of an exponent, if it has one. -/
def signedDigits : Language UInt8 := (1 + oneOf (among "+-")) * digits

/-- An exponent, if there is one. -/
def exponentDigits : Language UInt8 := 1 + oneOf (among "eE") * signedDigits

/-- A number of any size. -/
def number : Language UInt8 :=
  (1 + mark 0x2D) * (wholeDigits * (fractionDigits * exponentDigits))

/-- The four hexadecimal digits of an escape. -/
def hexDigits : Language UInt8 :=
  {text | text.length = 4 ∧ ∃ number, Writes text number}

/-- What may follow a backslash. -/
def escapes : Language UInt8 :=
  oneOf (fun letter => (letterTable.lookup letter).isSome) + mark 0x75 * hexDigits

/-- What may stand between the quotes of a string: an escape need only be well-formed. -/
def characters : Language UInt8 := (oneOf isPlain + mark 0x5C * escapes)∗

/-- A string with its quotes. -/
def string : Language UInt8 := mark 0x22 * (characters * mark 0x22)

/-- The three literals. -/
def literals : Language UInt8 :=
  {text | ∃ word ∈ ["null", "true", "false"], text = Octets.ofText word}

/-! ## Values -/

/-- The parts of a value that contain each other: a value, what stands between two
commas, and a row of such items. -/
inductive Part
  | value
  | item (container : Container)
  | items (container : Container)
  deriving DecidableEq, Repr

/-- The texts that are derived from each part. -/
inductive Derives : Part → Octets → Prop
  | literal {text : Octets} (known : text ∈ literals) : Derives .value text
  | number {text : Octets} (spelled : text ∈ number) : Derives .value text
  | string {text : Octets} (spelled : text ∈ string) : Derives .value text
  | empty {container : Container} {gap : Octets} (blank : gap ∈ blanks) :
    Derives .value (container.brackets.1 :: (gap ++ [container.brackets.2]))
  | full {container : Container} {inner : Octets} (items : Derives (.items container) inner) :
    Derives .value (container.brackets.1 :: (inner ++ [container.brackets.2]))
  | element {front value back : Octets} (blank : front ∈ blanks)
    (element : Derives .value value) (blank' : back ∈ blanks) :
    Derives (.item .list) (front ++ (value ++ back))
  | member {front key gap value : Octets} (blank : front ∈ blanks) (spelled : key ∈ string)
    (blank' : gap ∈ blanks) (element : Derives (.item .list) value) :
    Derives (.item .object) (front ++ (key ++ (gap ++ 0x3A :: value)))
  | last {container : Container} {text : Octets} (item : Derives (.item container) text) :
    Derives (.items container) text
  | more {container : Container} {text rest : Octets} (item : Derives (.item container) text)
    (items : Derives (.items container) rest) :
    Derives (.items container) (text ++ 0x2C :: rest)

/-- The texts of a part. -/
def texts (part : Part) : Language UInt8 := {text | Derives part text}

/-- The texts that are values. -/
abbrev values : Language UInt8 := texts .value

/-- Brackets with nothing or with a row of items between them. -/
def bracketed (container : Container) : Language UInt8 :=
  mark container.brackets.1 * ((blanks + texts (.items container)) * mark container.brackets.2)

theorem mem_bracketed {container : Container} {text : Octets} :
    text ∈ bracketed container ↔ ∃ inner ∈ blanks + texts (.items container),
      text = container.brackets.1 :: (inner ++ [container.brackets.2]) := by
  constructor
  · rintro ⟨-, rfl, -, ⟨inner, here, -, rfl, rfl⟩, rfl⟩
    exact ⟨inner, here, rfl⟩
  · rintro ⟨inner, here, rfl⟩
    exact ⟨_, rfl, _, ⟨inner, here, _, rfl, rfl⟩, rfl⟩

theorem values_eq :
    values = literals + number + string + bracketed .list + bracketed .object := by
  ext text
  simp only [Language.mem_add, mem_bracketed]
  constructor
  · rintro (derived : Derives .value text)
    cases derived with
    | literal known => exact .inl (.inl (.inl (.inl known)))
    | number spelled => exact .inl (.inl (.inl (.inr spelled)))
    | string spelled => exact .inl (.inl (.inr spelled))
    | @empty container gap blank =>
        cases container with
        | list => exact .inl (.inr ⟨gap, .inl blank, rfl⟩)
        | object => exact .inr ⟨gap, .inl blank, rfl⟩
    | @full container inner items =>
        cases container with
        | list => exact .inl (.inr ⟨inner, .inr items, rfl⟩)
        | object => exact .inr ⟨inner, .inr items, rfl⟩
  · rintro ((((known | spelled) | spelled) | ⟨inner, blank | items, rfl⟩) |
      ⟨inner, blank | items, rfl⟩)
    · exact .literal known
    · exact .number spelled
    · exact .string spelled
    · exact .empty blank
    · exact .full items
    · exact .empty blank
    · exact .full items

theorem texts_item_list : texts (.item .list) = blanks * (values * blanks) := by
  ext text
  constructor
  · rintro (derived : Derives (.item .list) text)
    cases derived with
    | element blank element blank' => exact ⟨_, blank, _, ⟨_, element, _, blank', rfl⟩, rfl⟩
  · rintro ⟨front, blank, -, ⟨value, element, back, blank', rfl⟩, rfl⟩
    exact .element blank element blank'

theorem texts_item_object :
    texts (.item .object) = blanks * (string * (blanks * (mark 0x3A * texts (.item .list)))) := by
  ext text
  constructor
  · rintro (derived : Derives (.item .object) text)
    cases derived with
    | member blank spelled blank' element =>
        exact ⟨_, blank, _, ⟨_, spelled, _, ⟨_, blank', _, ⟨_, rfl, _, element, rfl⟩, rfl⟩,
          rfl⟩, rfl⟩
  · rintro ⟨front, blank, -, ⟨key, spelled, -, ⟨gap, blank', -, ⟨-, rfl, value, element, rfl⟩,
      rfl⟩, rfl⟩, rfl⟩
    exact .member blank spelled blank' element

theorem texts_items (container : Container) : texts (.items container) =
    texts (.item container) * (1 + mark 0x2C * texts (.items container)) := by
  ext text
  constructor
  · rintro (derived : Derives (.items container) text)
    cases derived with
    | last item => exact ⟨text, item, [], .inl rfl, List.append_nil text⟩
    | more item items => exact ⟨_, item, _, .inr ⟨_, rfl, _, items, rfl⟩, rfl⟩
  · rintro ⟨front, item, -, rfl | ⟨-, rfl, rest, items, rfl⟩, rfl⟩
    · show front ++ [] ∈ texts (.items container)
      rw [List.append_nil]
      exact .last item
    · exact .more item items

end Rendezvous.Json
