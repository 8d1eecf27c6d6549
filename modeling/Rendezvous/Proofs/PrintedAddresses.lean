/-
# Printed addresses

An address is printed with its port in the fewest figures. What was read is read again from
its print, and the print is the text without the noughts in front of its port; so the texts
of one address are those that differ in such noughts, and the print is the shortest of them.
-/

import Mathlib.Data.List.DropRight
import Rendezvous.Proofs.Addresses

namespace Rendezvous.ListenAddress

/-! ## Noughts -/

/-- A numeral without the noughts in front of it; its last figure stays, nought or not. -/
def shorten : List Char → List Char
  | '0' :: figure :: rest => shorten (figure :: rest)
  | numeral => numeral

section

variable {numeral : List Char} {figure : Char} {count : Nat}

@[simp]
theorem shorten_nought (nonempty : numeral ≠ []) : shorten ('0' :: numeral) = shorten numeral := by
  cases numeral with
  | nil => contradiction
  | cons figure rest => rw [shorten]

theorem shorten_singleton : shorten [figure] = [figure] := by
  simp [shorten]

theorem shorten_cons (other : figure ≠ '0') : shorten (figure :: numeral) = figure :: numeral := by
  rw [shorten]
  intro _ _ same
  cases same
  contradiction

theorem shorten_noughts (nonempty : numeral ≠ []) :
    shorten (List.replicate count '0' ++ numeral) = shorten numeral := by
  induction count with
  | zero => rfl
  | succ count ih =>
      rw [List.replicate_succ, List.cons_append, shorten_nought (by simp [nonempty]), ih]

/-- Nothing but noughts is taken off. -/
theorem exists_noughts : ∃ count, numeral = List.replicate count '0' ++ shorten numeral := by
  fun_induction shorten numeral with
  | case1 figure rest ih =>
      obtain ⟨count, same⟩ := ih
      exact ⟨count + 1, by rw [List.replicate_succ, List.cons_append, ← same]⟩
  | case2 numeral => exact ⟨0, rfl⟩

theorem shorten_ne_nil (nonempty : numeral ≠ []) : shorten numeral ≠ [] := by
  fun_induction shorten numeral with
  | case1 figure rest ih => exact ih (List.cons_ne_nil _ _)
  | case2 numeral => exact nonempty

/-- One more figure comes behind a shortened numeral, or in the place of a nought. -/
theorem shorten_concat (nonempty : numeral ≠ []) :
    shorten (numeral ++ [figure]) =
      if shorten numeral = ['0'] then [figure] else shorten numeral ++ [figure] := by
  induction numeral with
  | nil => contradiction
  | cons first rest ih =>
      by_cases nought : first = '0'
      · subst nought
        rw [List.cons_append, shorten_nought (by simp)]
        cases rest with
        | nil => simp [shorten_singleton]
        | cons second rest => rw [shorten_nought (by simp), ih (by simp)]
      · rw [List.cons_append, shorten_cons nought, shorten_cons nought, if_neg (by simp [nought])]
        rfl

theorem worth_noughts : worth (List.replicate count '0' ++ numeral) = worth numeral := by
  have none : figures.idxOf '0' = 0 := by decide
  simp [worth, none, Nat.ofDigits_append]

/-- Without noughts a numeral is worth the same. -/
theorem worth_shorten : worth (shorten numeral) = worth numeral := by
  obtain ⟨count, same⟩ := @exists_noughts numeral
  conv_rhs => rw [same, worth_noughts]

theorem digitChar_idxOf (inside : figure ∈ figures) :
    Nat.digitChar (figures.idxOf figure) = figure := by
  have each : figures.all fun figure => Nat.digitChar (figures.idxOf figure) = figure := by decide
  exact of_decide_eq_true (List.all_eq_true.mp each figure inside)

/-- A number is written with the shortest of the numerals that are worth it. -/
theorem toDigits_worth (nonempty : numeral ≠ []) (figured : ∀ figure ∈ numeral, figure ∈ figures) :
    Nat.toDigits 10 (worth numeral) = shorten numeral := by
  induction numeral using List.reverseRecOn with
  | nil => contradiction
  | append_singleton front last ih =>
      have inside : last ∈ figures := figured last (by simp)
      have small : figures.idxOf last < 10 := List.idxOf_lt_length_of_mem inside
      have alone : Nat.toDigits 10 (figures.idxOf last) = [last] := by
        rw [Nat.toDigits_of_lt_base small, digitChar_idxOf inside]
      rw [worth_concat]
      by_cases empty : front = []
      · simp [empty, worth, alone, shorten_singleton]
      have printed : Nat.toDigits 10 (worth front) = shorten front :=
        ih empty fun figure there => figured figure (List.mem_append_left _ there)
      rw [shorten_concat empty, ← printed]
      rcases Nat.eq_zero_or_pos (worth front) with none | positive
      · simp [none, alone]
      · have more : shorten front ≠ ['0'] := by
          intro nought
          rw [← worth_shorten, nought] at positive
          exact absurd positive (by decide)
        rw [if_neg (printed ▸ more), ← alone,
          Nat.toDigits_append_toDigits (by decide) positive small]

end

/-! ## Prints -/

/-- A text without the noughts in front of its last part. -/
def withoutNoughts (text : String) : String :=
  .ofList (text.toList.rdropWhile (· ≠ ':') ++ shorten (text.toList.rtakeWhile (· ≠ ':')))

/-- Two texts that differ in noughts at most. They begin alike up to a colon and end in the
same numeral, and in between each of them has noughts of its own. -/
def DifferInNoughts (text other : String) : Prop :=
  ∃ front numeral few many, numeral ≠ [] ∧ (∀ figure ∈ numeral, figure ∈ figures) ∧
    text.toList = front ++ ':' :: (List.replicate few '0' ++ numeral) ∧
    other.toList = front ++ ':' :: (List.replicate many '0' ++ numeral)

/-- What stands in front of the port and its colon. -/
def front (address : ListenAddress) : List Char :=
  address.transport.word.toList ++ ':' :: address.host.toList

/-- What printing makes of an address that a text was read as. -/
structure Prints (text : String) (address : ListenAddress) : Prop where
  /-- The print is read as the address, -/
  again : parse address.display = .ok address
  /-- so that reading and printing once more changes nothing. -/
  settled : (parse address.display).map display = .ok address.display
  /-- It is the text without the noughts in front of the port. -/
  shortest : address.display = withoutNoughts text
  /-- Another text that is read is read as this address exactly if the two differ in noughts
  at most. -/
  alike : ∀ {other : String} {there : ListenAddress}, parse other = .ok there →
    (address = there ↔ DifferInNoughts text other)
  /-- The transport stands in front of what is bound. -/
  parts : address.display =
    (match address.transport with | .tcp => "tcp" | .tls => "tls") ++ ":" ++ address.bindAddress

section

variable {text other : String} {address there : ListenAddress} {front numeral : List Char}
  {numbered : String} {port : UInt16}

theorem colon_notMem_numeral (figured : ∀ figure ∈ numeral, figure ∈ figures) : ':' ∉ numeral :=
  fun inside => absurd (figured _ inside) (by decide)

/-- The last part of a text begins behind its last colon. -/
theorem toList_withoutNoughts (plain : ':' ∉ numeral)
    (cut : text.toList = front ++ ':' :: numeral) :
    (withoutNoughts text).toList = front ++ ':' :: shorten numeral := by
  have apart : ∀ char ∈ numeral.reverse, decide (char ≠ ':') = true := by
    intro char inside
    rw [List.mem_reverse] at inside
    exact decide_eq_true fun same => plain (same ▸ inside)
  have turned : text.toList.reverse = numeral.reverse ++ ':' :: front.reverse := by simp [cut]
  rw [withoutNoughts, List.rdropWhile, List.rtakeWhile, turned, List.dropWhile_append_of_pos apart,
    List.takeWhile_append_of_pos apart]
  simp

/-- A port is printed with the numeral that counts it, shortened. -/
theorem Counts.toDigits (counted : Counts numbered port) :
    Nat.toDigits 10 port.toNat = shorten numbered.toList := by
  rw [← counted.worth, toDigits_worth (List.length_pos_iff.mp counted.some) counted.figured]

theorem Counts.shortened (counted : Counts numbered port) :
    Counts (.ofList (shorten numbered.toList)) port := by
  obtain ⟨count, same⟩ := @exists_noughts numbered.toList
  have shorter : (shorten numbered.toList).length ≤ numbered.length := by
    rw [← String.length_toList]
    conv_rhs => rw [same]
    simp
  constructor
  · rw [String.length_ofList]
    exact List.length_pos_iff.mpr (shorten_ne_nil (List.length_pos_iff.mp counted.some))
  · rw [String.length_ofList]
    exact shorter.trans counted.few
  · intro figure inside
    rw [String.toList_ofList] at inside
    apply counted.figured
    rw [same]
    exact List.mem_append_right _ inside
  · rw [String.toList_ofList, worth_shorten, counted.worth]

theorem toList_display :
    address.display.toList = address.front ++ ':' :: Nat.toDigits 10 address.port.toNat := by
  simp [display, bindAddress, front, Nat.toString_eq_repr]

theorem Names.exists_cut (names : Names text address) :
    ∃ numbered, Counts numbered address.port ∧
      text.toList = address.front ++ ':' :: numbered.toList := by
  obtain ⟨numbered, -, counted, rfl⟩ := names_iff.mp names
  exact ⟨numbered, counted, by simp [front]⟩

theorem Names.display (names : Names text address) : Names address.display address := by
  obtain ⟨numbered, named, counted, -⟩ := names_iff.mp names
  apply names_iff.mpr
  apply Exists.intro (.ofList (shorten numbered.toList))
  exact ⟨named, counted.shortened, String.toList_inj.mp (by
    simp [toList_display, front, counted.toDigits])⟩

theorem Names.display_eq (names : Names text address) :
    address.display = withoutNoughts text := by
  obtain ⟨numbered, counted, cut⟩ := names.exists_cut
  apply String.toList_inj.mp
  rw [toList_display, toList_withoutNoughts (colon_notMem_numeral counted.figured) cut,
    counted.toDigits]

theorem DifferInNoughts.withoutNoughts_eq (differ : DifferInNoughts text other) :
    withoutNoughts text = withoutNoughts other := by
  obtain ⟨front, numeral, few, many, nonempty, figured, here, there⟩ := differ
  have plain (count) : ':' ∉ List.replicate count '0' ++ numeral := by
    simp [colon_notMem_numeral figured]
  apply String.toList_inj.mp
  rw [toList_withoutNoughts (plain few) here, toList_withoutNoughts (plain many) there,
    shorten_noughts nonempty, shorten_noughts nonempty]

theorem Names.differInNoughts (names : Names text address) (again : Names other address) :
    DifferInNoughts text other := by
  obtain ⟨numbered, counted, cut⟩ := names.exists_cut
  obtain ⟨numbered', counted', cut'⟩ := again.exists_cut
  obtain ⟨few, same⟩ := @exists_noughts numbered.toList
  obtain ⟨many, same'⟩ := @exists_noughts numbered'.toList
  have short : shorten numbered'.toList = shorten numbered.toList :=
    counted'.toDigits.symm.trans counted.toDigits
  have figured : ∀ figure ∈ shorten numbered.toList, figure ∈ figures := by
    simpa using counted.shortened.figured
  rw [short] at same'
  rw [same] at cut
  rw [same'] at cut'
  exact ⟨_, _, few, many, shorten_ne_nil (List.length_pos_iff.mp counted.some), figured, cut, cut'⟩

/-- What was read is read again from its print. -/
theorem parse_display (parsed : parse text = .ok address) :
    parse address.display = .ok address :=
  parse_eq_ok_iff_names.mpr (parse_eq_ok_iff_names.mp parsed).display

theorem display_eq_withoutNoughts (parsed : parse text = .ok address) :
    address.display = withoutNoughts text :=
  (parse_eq_ok_iff_names.mp parsed).display_eq

/-- The texts of one address are those that differ in noughts. -/
theorem eq_iff_differInNoughts (parsed : parse text = .ok address)
    (parsed' : parse other = .ok there) : address = there ↔ DifferInNoughts text other := by
  constructor
  · intro same
    have names : Names text address := parse_eq_ok_iff_names.mp parsed
    exact names.differInNoughts (parse_eq_ok_iff_names.mp (same ▸ parsed'))
  · intro differ
    have printed : address.display = there.display := by
      rw [display_eq_withoutNoughts parsed, display_eq_withoutNoughts parsed',
        differ.withoutNoughts_eq]
    have again : parse address.display = .ok there := printed ▸ parse_display parsed'
    exact Except.ok.inj ((parse_display parsed).symm.trans again)

/-- Printing an address undoes the reading of it but for the noughts. -/
theorem prints_of_parse (parsed : parse text = .ok address) : Prints text address where
  again := parse_display parsed
  settled := by
    rw [parse_display parsed]
    rfl
  shortest := display_eq_withoutNoughts parsed
  alike parsed' := eq_iff_differInNoughts parsed parsed'
  parts := by
    cases address with
    | mk transport host port => cases transport <;> rfl

theorem prints_of_noughts :
    parse "tls:h-1.x:00443" = .ok ⟨.tls, "h-1.x", 443⟩ ∧
      Prints "tls:h-1.x:00443" ⟨.tls, "h-1.x", 443⟩ :=
  ⟨by decide +kernel, prints_of_parse (by decide +kernel)⟩

end

end Rendezvous.ListenAddress
