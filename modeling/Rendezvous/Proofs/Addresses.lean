/-
# Addresses in writing

An address is written as a transport, a host and a port with colons between them. What may
stand in each of the three places is said here with texts that list the characters, and what
a numeral is worth with the positional law; the reader takes what is written like that, for
what it says, and nothing else.
-/

import Mathlib.Data.List.Induction
import Mathlib.Data.Nat.Digits.Defs
import Rendezvous.Proofs.Spellings

namespace Rendezvous.ListenAddress

/-! ## Characters -/

/-- The characters that a host is made of. -/
def hostAlphabet : List Char := "abcdefghijklmnopqrstuvwxyz0123456789_-.".toList

/-- The ten figures, each at the place that it stands for. -/
def figures : List Char := "0123456789".toList

theorem mem_iff_toNat_mem {char : Char} {chars : List Char} :
    char ∈ chars ↔ char.toNat ∈ chars.map Char.toNat :=
  (List.mem_map_of_injective fun _ _ => Char.toNat_inj.mp).symm

theorem isDigit_iff {char : Char} : isDigit char = true ↔ char ∈ figures := by
  have listed : figures.map Char.toNat = List.range' 48 10 := by decide
  rw [mem_iff_toNat_mem, listed, List.mem_range'_1]
  simp [isDigit, Char.le_def, UInt32.le_iff_toNat_le]
  omega

theorem isHostChar_iff {char : Char} : isHostChar char = true ↔ char ∈ hostAlphabet := by
  have listed : hostAlphabet.map Char.toNat =
      List.range' 97 26 ++ List.range' 48 10 ++ [95, 45, 46] := by decide
  rw [mem_iff_toNat_mem, listed, List.mem_append, List.mem_append, List.mem_range'_1,
    List.mem_range'_1]
  simp [isHostChar, Char.le_def, UInt32.le_iff_toNat_le, ← Char.toNat_inj]
  omega

/-! ## Numerals -/

/-- What a numeral is worth: each figure its place among the figures, times ten for each
figure behind it. -/
def worth (numeral : List Char) : Nat :=
  Nat.ofDigits 10 (numeral.reverse.map figures.idxOf)

section

variable {numeral : List Char} {figure : Char}

theorem worth_concat :
    worth (numeral ++ [figure]) = 10 * worth numeral + figures.idxOf figure := by
  simp [worth, Nat.ofDigits_cons, Nat.add_comm]

theorem digitsValue_concat :
    digitsValue (numeral ++ [figure]) = 10 * digitsValue numeral + (figure.toNat - 48) := by
  simp [digitsValue]

theorem toNat_sub_of_mem_figures (inside : figure ∈ figures) :
    figure.toNat - 48 = figures.idxOf figure := by
  have each : figures.all fun figure => figure.toNat - 48 = figures.idxOf figure := by decide
  exact of_decide_eq_true (List.all_eq_true.mp each figure inside)

/-- The reader counts as the positional law does. -/
theorem digitsValue_eq_worth (figured : ∀ figure ∈ numeral, figure ∈ figures) :
    digitsValue numeral = worth numeral := by
  induction numeral using List.reverseRecOn with
  | nil => rfl
  | append_singleton front last ih =>
      rw [digitsValue_concat, worth_concat,
        ih fun figure inside => figured figure (List.mem_append_left _ inside),
        toNat_sub_of_mem_figures (figured last (by simp))]

end

/-! ## Three parts -/

/-- A host has characters, and all of them are characters of a host. -/
structure IsHost (host : String) : Prop where
  nonempty : host ≠ ""
  alphabet : ∀ char ∈ host.toList, char ∈ hostAlphabet

/-- A port is counted by one to five figures that are worth it. -/
structure Counts (numeral : String) (port : UInt16) : Prop where
  some : 1 ≤ numeral.length
  few : numeral.length ≤ 5
  figured : ∀ char ∈ numeral.toList, char ∈ figures
  worth : worth numeral.toList = port.toNat

/-- What is written for an address. -/
inductive Names : String → ListenAddress → Prop
  | tcp {host numeral : String} {port : UInt16} (named : IsHost host)
      (counted : Counts numeral port) :
      Names ("tcp" ++ ":" ++ host ++ ":" ++ numeral) ⟨.tcp, host, port⟩
  | tls {host numeral : String} {port : UInt16} (named : IsHost host)
      (counted : Counts numeral port) :
      Names ("tls" ++ ":" ++ host ++ ":" ++ numeral) ⟨.tls, host, port⟩

section

variable {text : String} {address : ListenAddress} {before rest part : List Char}
  {host : String} {port : UInt16} {transport : Transport}

/-- Both transports are written alike, each with its own word. -/
theorem names_iff : Names text address ↔ ∃ numeral,
    IsHost address.host ∧ Counts numeral address.port ∧
      text = address.transport.word ++ ":" ++ address.host ++ ":" ++ numeral := by
  constructor
  · intro names
    cases names with
    | tcp named counted => exact ⟨_, named, counted, rfl⟩
    | tls named counted => exact ⟨_, named, counted, rfl⟩
  · obtain ⟨_ | _, host, port⟩ := address
    · intro ⟨numeral, named, counted, same⟩
      exact same ▸ .tcp named counted
    · intro ⟨numeral, named, counted, same⟩
      exact same ▸ .tls named counted

/-- A text is cut at its first colon. -/
theorem splitColon_append (whole : ':' ∉ before) :
    splitColon (before ++ ':' :: rest) = some (before, rest) := by
  induction before with
  | nil => simp [splitColon]
  | cons char before ih =>
      have other : char ≠ ':' := fun same => whole (by simp [same])
      rw [List.cons_append, splitColon, if_neg other, ih fun inside => whole (.tail _ inside)]
      rfl

theorem ofWord?_eq_some :
    Transport.ofWord? part = some transport ↔ part = transport.word.toList := by
  have apart : Transport.tls.word.toList ≠ Transport.tcp.word.toList := by decide
  cases transport <;> grind [Transport.ofWord?]

theorem hostOf?_eq_some : hostOf? part = some host ↔ IsHost host ∧ part = host.toList := by
  rw [hostOf?, Option.ite_none_right_eq_some, List.all_eq_true]
  simp only [isHostChar_iff, Option.some.injEq]
  constructor
  · rintro ⟨⟨nonempty, alphabet⟩, rfl⟩
    exact ⟨⟨by simpa using nonempty, by simpa using alphabet⟩, by simp⟩
  · rintro ⟨⟨nonempty, alphabet⟩, rfl⟩
    exact ⟨⟨by simpa using nonempty, alphabet⟩, by simp⟩

theorem portOf?_eq_some :
    portOf? part = some port ↔ ∃ numeral, Counts numeral port ∧ part = numeral.toList := by
  rw [portOf?, Option.ite_none_right_eq_some, List.all_eq_true]
  simp only [isDigit_iff, Option.some.injEq]
  constructor
  · rintro ⟨⟨nonempty, few, figured, small⟩, rfl⟩
    refine ⟨.ofList part, ⟨?_, by simpa using few, by simpa using figured, ?_⟩, by simp⟩
    · rw [String.length_ofList]
      exact List.length_pos_iff.mpr nonempty
    · rw [String.toList_ofList, ← digitsValue_eq_worth figured, UInt16.toNat_ofNat',
        Nat.mod_eq_of_lt small]
  · rintro ⟨numeral, ⟨some, few, figured, counted⟩, rfl⟩
    rw [digitsValue_eq_worth figured, counted]
    exact ⟨⟨List.length_pos_iff.mp some, few, figured, port.toNat_lt⟩, UInt16.ofNat_toNat⟩

theorem colon_notMem_word : ':' ∉ transport.word.toList := by
  cases transport <;> decide

theorem colon_notMem_host (named : IsHost host) : ':' ∉ host.toList :=
  fun inside => absurd (named.alphabet _ inside) (by decide)

theorem parse?_eq_some : parse? text = some address ↔ Names text address := by
  rw [names_iff, parse?]
  simp only [Option.bind_eq_bind, Option.bind_eq_some_iff, Option.pure_def, Option.some.injEq,
    Prod.exists, ofWord?_eq_some, hostOf?_eq_some, portOf?_eq_some]
  constructor
  · rintro ⟨_, rest, front, _, _, back, transport, rfl, host, ⟨named, rfl⟩, port,
      ⟨numeral, counted, rfl⟩, rfl⟩
    have whole : text = transport.word ++ ":" ++ host ++ ":" ++ numeral := by
      apply String.toList_inj.mp
      simp [splitColon_eq_some front, splitColon_eq_some back]
    exact ⟨numeral, named, counted, whole⟩
  · rintro ⟨numeral, named, counted, rfl⟩
    have first : ':' ∉ address.transport.word.toList := colon_notMem_word
    have second : ':' ∉ address.host.toList := colon_notMem_host named
    exact ⟨_, _, by simpa using splitColon_append first, _, _, splitColon_append second, _, rfl,
      _, ⟨named, rfl⟩, _, ⟨numeral, counted, rfl⟩, rfl⟩

/-- The reader takes what is written for an address, -/
theorem parse_eq_ok_iff_names : parse text = .ok address ↔ Names text address :=
  parse_eq_ok_iff.trans parse?_eq_some

/-- and any other text it gives back as it is. -/
theorem parse_reads_what_names (text : String) :
    (∀ address, parse text = .ok address ↔ Names text address) ∧
      (parse text = .error (.invalidListen text) ↔ ¬ ∃ address, Names text address) := by
  have refused : parse text = .error (.invalidListen text) ↔ parse? text = none := by
    unfold parse
    cases parse? text <;> simp
  have unnamed : parse? text = none ↔ ¬ ∃ address, Names text address := by
    simp only [← parse?_eq_some, Option.eq_none_iff_forall_ne_some, not_exists, ne_eq]
  exact ⟨fun address => parse_eq_ok_iff_names, refused.trans unnamed⟩

end

end Rendezvous.ListenAddress
