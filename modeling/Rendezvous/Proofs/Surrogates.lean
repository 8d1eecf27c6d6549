/-
# Which strings say something

A string need only be well-formed to be kept unread. To be decoded, every surrogate in it
has to be one of a pair; a surrogate that is not is called single here. A well-formed
string says a text if it has no single surrogate, and no text otherwise.
-/

import Rendezvous.Proofs.Decoding

open scoped Computability

namespace Rendezvous.Json

/-- What stands between the quotes has a single surrogate: the first one, so that all in
front of it says something. -/
inductive Single : Octets → Prop
  | trailing {front meaning digits back : Octets} {unit : Nat} (before : Spells front meaning)
    (four : digits.length = 4) (written : Writes digits unit)
    (trailing : 0xDC00 ≤ unit ∧ unit ≤ 0xDFFF) :
    Single (front ++ 0x5C :: 0x75 :: (digits ++ back))
  | leading {front meaning digits back : Octets} {unit : Nat} (before : Spells front meaning)
    (four : digits.length = 4) (written : Writes digits unit)
    (leading : 0xD800 ≤ unit ∧ unit ≤ 0xDBFF)
    (alone : ∀ digits' low rest, digits'.length = 4 → Writes digits' low →
      0xDC00 ≤ low ∧ low ≤ 0xDFFF → back ≠ 0x5C :: 0x75 :: (digits' ++ rest)) :
    Single (front ++ 0x5C :: 0x75 :: (digits ++ back))

/-- A string with a single surrogate. -/
def HasSingle (raw : Octets) : Prop :=
  ∃ body, raw = 0x22 :: (body ++ [0x22]) ∧ Single body

/-! ## What says a text is well-formed -/

theorem mem_characters_of_piece {piece : Octets}
    (here : piece ∈ oneOf isPlain + mark 0x5C * escapes) : piece ∈ characters :=
  (le_kstar : _ ≤ characters) here

theorem append_mem_characters {front back : Octets} (here : front ∈ characters)
    (there : back ∈ characters) : front ++ back ∈ characters := by
  rw [characters, ← kstar_mul_kstar]
  exact Language.append_mem_mul here there

theorem unit_mem_characters {digits : Octets} {unit : Nat} (four : digits.length = 4)
    (written : Writes digits unit) : 0x5C :: 0x75 :: digits ∈ characters :=
  mem_characters_of_piece
    (.inr ⟨_, rfl, _, .inr ⟨_, rfl, digits, ⟨four, unit, written⟩, rfl⟩, rfl⟩)

theorem Stands.mem_characters {front meant : Octets} (stands : Stands front meant) :
    front ∈ characters := by
  cases stands with
  | plain visible => exact mem_characters_of_piece (.inl ⟨_, visible, rfl⟩)
  | letter known =>
      have letter := Option.isSome_iff_exists.mpr ⟨_, known⟩
      exact mem_characters_of_piece (.inr ⟨_, rfl, _, .inl ⟨_, letter, rfl⟩, rfl⟩)
  | unit four written whole => exact unit_mem_characters four written
  | pair four written leading four' written' trailing =>
      exact append_mem_characters (unit_mem_characters four written)
        (unit_mem_characters four' written')

theorem Spells.mem_characters {spelling meaning : Octets} (spells : Spells spelling meaning) :
    spelling ∈ characters := by
  induction spells with
  | nil => exact Language.nil_mem_kstar _
  | cons first rest ih => exact append_mem_characters first.mem_characters ih

theorem mem_string_iff {raw : Octets} :
    raw ∈ string ↔ ∃ body ∈ characters, raw = 0x22 :: (body ++ [0x22]) := by
  constructor
  · rintro ⟨-, rfl, -, ⟨body, here, -, rfl, rfl⟩, rfl⟩
    exact ⟨body, here, rfl⟩
  · rintro ⟨body, here, rfl⟩
    exact ⟨_, rfl, _, ⟨body, here, _, rfl, rfl⟩, rfl⟩

/-! ## A string says something or has a single surrogate -/

/-- What stands between the quotes says something or has a single surrogate. -/
def Judged (body : Octets) : Prop := (∃ meaning, Spells body meaning) ∨ Single body

theorem Judged.cons {front meant back : Octets} (stands : Stands front meant)
    (judged : Judged back) : Judged (front ++ back) := by
  rcases judged with ⟨meaning, spells⟩ | single
  · exact .inl ⟨_, .cons stands spells⟩
  · right
    cases single with
    | trailing before four written trailing =>
        rw [← List.append_assoc]
        exact .trailing (.cons stands before) four written trailing
    | leading before four written leading alone =>
        rw [← List.append_assoc]
        exact .leading (.cons stands before) four written leading alone

/-- What begins with the escape of a unit begins with that as a whole. -/
theorem eq_of_piece_append {piece back digits rest : Octets}
    (shaped : piece ∈ oneOf isPlain + mark 0x5C * escapes) (four : digits.length = 4)
    (same : piece ++ back = 0x5C :: 0x75 :: (digits ++ rest)) : back = rest := by
  rcases shaped with ⟨octet, visible, rfl⟩ |
    ⟨-, rfl, -, ⟨letter, known, rfl⟩ | ⟨-, rfl, digits', ⟨four', -⟩, rfl⟩, rfl⟩
  · have backslash : octet = 0x5C := (List.cons.inj same).1
    rw [backslash] at visible
    exact absurd visible (by decide)
  · have unicode : letter = 0x75 := (List.cons.inj (List.cons.inj same).2).1
    rw [unicode] at known
    exact absurd known (by decide)
  · have tails : digits' ++ back = digits ++ rest := (List.cons.inj (List.cons.inj same).2).2
    exact (List.append_inj tails (four'.trans four.symm)).2

/-- One more character or surrogate in front of what has been judged. A leading surrogate
also needs what follows the trailing one to have been judged. -/
theorem Judged.cons_piece {piece back : Octets}
    (shaped : piece ∈ oneOf isPlain + mark 0x5C * escapes) (judged : Judged back)
    (later : ∀ digits unit rest, digits.length = 4 → Writes digits unit →
      back = 0x5C :: 0x75 :: (digits ++ rest) → Judged rest) : Judged (piece ++ back) := by
  rcases shaped with ⟨octet, visible, rfl⟩ |
    ⟨-, rfl, -, ⟨letter, known, rfl⟩ | ⟨-, rfl, digits, ⟨four, unit, written⟩, rfl⟩, rfl⟩
  · exact judged.cons (.plain visible)
  · obtain ⟨meant, known⟩ := Option.isSome_iff_exists.mp known
    exact judged.cons (.letter known)
  show Judged (0x5C :: 0x75 :: (digits ++ back))
  have kinds : (0xDC00 ≤ unit ∧ unit ≤ 0xDFFF) ∨ (0xD800 ≤ unit ∧ unit ≤ 0xDBFF) ∨
      (unit < 0xD800 ∨ 0xDFFF < unit) := by omega
  rcases kinds with trailing | leading | whole
  · exact .inr (.trailing .nil four written trailing)
  · by_cases paired : ∃ digits' low rest, digits'.length = 4 ∧ Writes digits' low ∧
      (0xDC00 ≤ low ∧ low ≤ 0xDFFF) ∧ back = 0x5C :: 0x75 :: (digits' ++ rest)
    · obtain ⟨digits', low, rest, four', written', trailing, rfl⟩ := paired
      have both := (later digits' low rest four' written' rfl).cons
        (.pair four written leading four' written' trailing)
      rwa [List.cons_append, List.cons_append, List.append_assoc] at both
    · refine .inr (.leading .nil four written leading ?_)
      intro digits' low rest four' written' trailing same
      exact paired ⟨digits', low, rest, four', written', trailing, same⟩
  · exact judged.cons (.unit four written whole)

theorem judged_of_mem_characters {body : Octets} (here : body ∈ characters) : Judged body := by
  obtain ⟨pieces, rfl, shaped⟩ := Language.mem_kstar.mp here
  have both : Judged pieces.flatten ∧ ∀ digits unit rest, digits.length = 4 → Writes digits unit →
      pieces.flatten = 0x5C :: 0x75 :: (digits ++ rest) → Judged rest := by
    clear here
    induction pieces with
    | nil => exact ⟨.inl ⟨[], .nil⟩, nofun⟩
    | cons piece pieces ih =>
        have first := shaped piece List.mem_cons_self
        obtain ⟨judged, later⟩ :=
          ih fun piece listed => shaped piece (List.mem_cons_of_mem _ listed)
        refine ⟨judged.cons_piece first later, ?_⟩
        intro digits unit rest four written same
        rwa [← eq_of_piece_append first four same]
  exact both.1

/-! ## Not both -/

section

variable {said target text digits : Octets} {unit : Nat}

theorem Writes.unique {unit' : Nat} (written : Writes digits unit)
    (written' : Writes digits unit') : unit = unit' := by
  have same := (hexNumber?_eq_some.mpr written).symm.trans (hexNumber?_eq_some.mpr written')
  exact Option.some.inj same

theorem mem_mark_unitThen_of_written {next : Nat → Language UInt8} (four : digits.length = 4)
    (written : Writes digits unit) :
    0x75 :: (digits ++ text) ∈ mark 0x75 * unitThen [] next ↔ text ∈ next unit := by
  rw [mem_mark_unitThen]
  constructor
  · rintro ⟨digits', unit', rest, four', written', here, same⟩
    obtain ⟨rfl, rfl⟩ := List.append_inj (List.cons.inj same).2 (four.trans four'.symm)
    rwa [written.unique written']
  · intro here
    exact ⟨digits, unit, text, four, written, here, rfl⟩

/-- After a backslash. -/
theorem backslash_cons_mem_saying :
    0x5C :: text ∈ saying said target ↔ text ∈ afterBackslash said target := by
  have special : isPlain 0x5C = false := by decide
  rw [cons_mem_saying, special]
  simp

theorem mem_saying_of_escape (four : digits.length = 4) (written : Writes digits unit) :
    0x5C :: 0x75 :: (digits ++ text) ∈ saying said target ↔
      text ∈ afterUnit said target unit := by
  have noLetter : 0x75 :: (digits ++ text) ∉ afterLetter said target := by
    rw [cons_mem_afterLetter]
    rintro ⟨meant, known, -⟩
    cases known
  rw [backslash_cons_mem_saying, afterBackslash, Language.mem_add, or_iff_right noLetter,
    mem_mark_unitThen_of_written four written]

theorem mem_afterLeading_of_escape {high : Nat} (four : digits.length = 4)
    (written : Writes digits unit) (trailing : 0xDC00 ≤ unit ∧ unit ≤ 0xDFFF) :
    0x5C :: 0x75 :: (digits ++ text) ∈ afterLeading high said target ↔
      text ∈ sayingAfter (pairedPoint high unit) said target := by
  rw [afterLeading, cons_mem_mark_mul, mem_mark_unitThen_of_written four written, afterTrailing,
    if_pos (isTrailing_iff.mpr trailing)]
  exact and_iff_right rfl

/-- A spelled character is read as a whole. -/
theorem Stands.append_mem_saying {front meant : Octets} (stands : Stands front meant) :
    front ++ text ∈ saying said target ↔ text ∈ saying (meant.reverse ++ said) target := by
  cases stands with
  | @plain octet visible =>
      have quote : octet ≠ 0x22 := by
        rintro rfl
        exact absurd visible (by decide)
      have backslash : octet ≠ 0x5C := by
        rintro rfl
        exact absurd visible (by decide)
      rw [List.singleton_append, cons_mem_saying, visible]
      simp [quote, backslash]
  | @letter letter meant known =>
      have unicode : letter ≠ 0x75 := by
        rintro rfl
        cases known
      show 0x5C :: letter :: text ∈ saying said target ↔ text ∈ saying (meant :: said) target
      rw [backslash_cons_mem_saying, afterBackslash, Language.mem_add, cons_mem_mark_mul,
        cons_mem_afterLetter, ← letterTable_lookup, known]
      simp [unicode]
  | unit four written whole =>
      rw [List.cons_append, List.cons_append, mem_saying_of_escape four written,
        afterUnit_of_whole whole]
      rfl
  | pair four written leading four' written' trailing =>
      rw [List.cons_append, List.cons_append, List.append_assoc, mem_saying_of_escape four written,
        afterUnit_of_leading leading, List.cons_append, List.cons_append,
        mem_afterLeading_of_escape four' written' trailing]
      rfl

theorem Spells.append_mem_saying {front meaning : Octets} (spells : Spells front meaning) :
    front ++ text ∈ saying said target ↔ text ∈ saying (meaning.reverse ++ said) target := by
  induction spells generalizing said with
  | nil => rfl
  | cons first rest ih =>
      rw [List.append_assoc, first.append_mem_saying, ih, List.reverse_append, List.append_assoc]

/-- A single surrogate says nothing. -/
theorem not_spells_of_single {body meaning : Octets} (single : Single body) :
    ¬ Spells body meaning := by
  intro spells
  have whole : body ++ [0x22] ∈ saying [] meaning := ⟨body, meaning, spells, rfl, rfl⟩
  cases single with
  | trailing before four written trailing =>
      rw [List.append_assoc, before.append_mem_saying, List.cons_append, List.cons_append,
        List.append_assoc, mem_saying_of_escape four written,
        afterUnit_of_trailing trailing] at whole
      exact Language.notMem_zero _ whole
  | leading before four written leading alone =>
      rw [List.append_assoc, before.append_mem_saying, List.cons_append, List.cons_append,
        List.append_assoc, mem_saying_of_escape four written, afterUnit_of_leading leading] at whole
      obtain ⟨digits', low, rest, four', written', trailing, here, same⟩ :=
        mem_afterLeading.mp whole
      obtain ⟨spelling, -, -, -, rfl⟩ := here
      refine alone digits' low spelling four' written' trailing ?_
      apply List.append_cancel_right
      rw [same]
      simp

end

/-- A string says something unless it has a single surrogate. -/
theorem exists_mem_spellings_iff {raw : Octets} :
    (∃ meaning, raw ∈ spellings meaning) ↔ raw ∈ string ∧ ¬ HasSingle raw := by
  rw [mem_string_iff]
  constructor
  · rintro ⟨meaning, body, spells, rfl⟩
    refine ⟨⟨body, spells.mem_characters, rfl⟩, ?_⟩
    rintro ⟨body', same, single⟩
    rw [← List.append_cancel_right (List.cons.inj same).2] at single
    exact not_spells_of_single single spells
  · rintro ⟨⟨body, here, rfl⟩, paired⟩
    rcases judged_of_mem_characters here with ⟨meaning, spells⟩ | single
    · exact ⟨meaning, body, spells, rfl⟩
    · exact absurd ⟨body, rfl, single⟩ paired

end Rendezvous.Json
