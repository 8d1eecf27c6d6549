/-
# What a list holds

The grammar of lists is given for the list of their elements, as that of objects is for their
members. Nothing is left open by it: a value goes on to the first octet that may stand behind
one, so a text is a list of one row of elements at most. What is written for a row of values
is the list of that row.
-/

import Rendezvous.Proofs.Hops

open scoped Computability

namespace Rendezvous.Json

/-! ## The grammar of lists -/

/-- What may follow an element of a list when others are still to come. -/
def afterEntry : List Octets → Language UInt8
  | [] => blanks * (mark 0x5D * blanks)
  | next :: rest => blanks * (mark 0x2C * (blanks * (theValue next * afterEntry rest)))

/-- What may follow the opening bracket of a list of the given elements. -/
def entries : List Octets → Language UInt8
  | [] => blanks * (mark 0x5D * blanks)
  | first :: rest => blanks * (theValue first * afterEntry rest)

/-- Lists of the given elements. -/
def listTexts (elements : List Octets) : Language UInt8 :=
  blanks * (mark 0x5B * entries elements)

section

variable {octet expected expected' : UInt8} {text back value other : Octets}
  {elements others : List Octets} {rest rest' : Language UInt8}

/-! ## Where an element ends -/

theorem isDelimiter_of_mem_blanks_mark (delimits : isDelimiter expected = true)
    (here : octet :: text ∈ blanks * (mark expected * rest)) : isDelimiter octet = true := by
  rw [cons_mem_blanks_mul, cons_mem_mark_mul] at here
  rcases here with ⟨blank, -⟩ | ⟨rfl, -⟩
  · simp [isDelimiter, blank]
  · exact delimits

theorem isDelimiter_of_mem_afterEntry (here : octet :: text ∈ afterEntry elements) :
    isDelimiter octet = true := by
  cases elements with
  | nil => exact isDelimiter_of_mem_blanks_mark rfl here
  | cons => exact isDelimiter_of_mem_blanks_mark rfl here

/-- A text that completes a value is not continued by one that begins with a delimiter and
completes the value with it. -/
theorem Scanner.not_isDelimiter_of_continues {scanner : Scanner} (whole : [] ∈ scanner.language)
    (continues : octet :: text ∈ scanner.language) : isDelimiter octet = false := by
  by_contra delimiter
  rw [cons_mem_language, completeBefore_of_nil_mem whole (Bool.of_not_eq_false delimiter)]
    at continues
  exact Language.notMem_zero text continues

/-- Of two completions of a value, each of them in front of a delimiter, none is longer. -/
theorem Scanner.completion_unique {scanner : Scanner} {behind : Octets}
    (here : value ∈ scanner.language) (there : other ∈ scanner.language)
    (same : value ++ back = other ++ behind)
    (ends : ∀ octet ∈ back.head?, isDelimiter octet = true)
    (ends' : ∀ octet ∈ behind.head?, isDelimiter octet = true) : value = other := by
  -- The scanner steps along both at once; one of them alone can only be over at a delimiter.
  induction value generalizing scanner other with
  | nil =>
      cases other with
      | nil => rfl
      | cons octet other =>
          obtain rfl : back = octet :: (other ++ behind) := same
          have delimiter := ends octet rfl
          rw [not_isDelimiter_of_continues here there] at delimiter
          cases delimiter
  | cons octet value ih =>
      cases other with
      | nil =>
          obtain rfl : behind = octet :: (value ++ back) := same.symm
          have delimiter := ends' octet rfl
          rw [not_isDelimiter_of_continues there here] at delimiter
          cases delimiter
      | cons octet' other =>
          obtain ⟨rfl, later⟩ := List.cons.inj same
          rw [cons_mem_language] at here there
          cases taken : scanner.step octet with
          | more next =>
              rw [taken] at here there
              rw [ih here there later]
          | complete =>
              rw [taken] at here there
              rw [Set.mem_singleton_iff.mp here, Set.mem_singleton_iff.mp there]
          | completeBefore | refused =>
              rw [taken] at here
              exact absurd here (Language.notMem_zero value)

/-- In front of something that is not blank there is one row of blanks. -/
theorem mem_blanks_mul_iff (visible : ∀ octet text, octet :: text ∈ rest → isBlank octet = false) :
    text ∈ blanks * rest ↔ text.dropWhile isBlank ∈ rest := by
  induction text with
  | nil => rw [blanks, nil_mem_kstar_mul, List.dropWhile_nil]
  | cons octet text ih =>
      rw [cons_mem_blanks_mul, ih]
      cases blank : isBlank octet with
      | true =>
          rw [List.dropWhile_cons_of_pos blank, or_iff_left, and_iff_right rfl]
          intro here
          rw [visible octet text here] at blank
          cases blank
      | false =>
          rw [List.dropWhile_cons_of_neg (by simp [blank])]
          simp

/-- An entry begins as its value does. -/
theorem exists_value_of_entry (here : octet :: text ∈ theValue value * rest) :
    ∃ more, octet :: more ∈ values := by
  obtain ⟨_, ⟨rfl, known⟩, back, -, whole⟩ := here
  obtain ⟨rfl, -⟩ | ⟨more, rfl, -⟩ := List.append_eq_cons_iff.mp whole
  · exact absurd known nil_notMem_values
  · exact ⟨more, known⟩

theorem isBlank_of_entry (here : octet :: text ∈ theValue value * rest) :
    isBlank octet = false := by
  obtain ⟨more, known⟩ := exists_value_of_entry here
  exact Scanner.isBlank_of_cons_mem_values known

/-- After a value comes what may follow it, and where that begins is settled. -/
theorem entry_unique (here : text ∈ blanks * (theValue value * afterEntry elements))
    (there : text ∈ blanks * (theValue other * afterEntry others)) :
    value = other ∧ ∃ back, back ∈ afterEntry elements ∧ back ∈ afterEntry others := by
  rw [mem_blanks_mul_iff fun _ _ => isBlank_of_entry] at here there
  obtain ⟨value, ⟨rfl, known⟩, back, here, whole⟩ := here
  obtain ⟨other, ⟨rfl, known'⟩, behind, there, whole'⟩ := there
  have begun {content : Octets} (known : content ∈ values) :
      content ∈ (Scanner.mk .value []).language := by
    apply mem_blanks_mul
    rwa [afterElement, mul_one]
  have ends {row : List Octets} {back : Octets} (here : back ∈ afterEntry row) :
      ∀ octet ∈ back.head?, isDelimiter octet = true := by
    intro octet first
    cases back with
    | nil => cases first
    | cons octet back =>
        cases first
        exact isDelimiter_of_mem_afterEntry here
  have same : value ++ back = other ++ behind := whole.trans whole'.symm
  obtain rfl := Scanner.completion_unique (begun known) (begun known') same (ends here) (ends there)
  exact ⟨rfl, back, here, List.append_cancel_left same ▸ there⟩

/-! ## One row of elements at most -/

theorem isBlank_of_marked (shown : isBlank expected = false)
    (here : octet :: text ∈ mark expected * rest) : isBlank octet = false :=
  (cons_mem_mark_mul.mp here).1 ▸ shown

theorem marked_unique (shown : isBlank expected = false) (shown' : isBlank expected' = false)
    (here : text ∈ blanks * (mark expected * rest))
    (there : text ∈ blanks * (mark expected' * rest')) :
    expected = expected' ∧ ∃ back, back ∈ rest ∧ back ∈ rest' := by
  rw [mem_blanks_mul_iff fun _ _ => isBlank_of_marked shown] at here
  rw [mem_blanks_mul_iff fun _ _ => isBlank_of_marked shown'] at there
  cases begins : text.dropWhile isBlank with
  | nil =>
      rw [begins] at here
      exact absurd here (nil_notMem_mul_left nil_notMem_mark)
  | cons octet back =>
      rw [begins, cons_mem_mark_mul] at here there
      exact ⟨here.1.symm.trans there.1, back, here.2, there.2⟩

theorem afterEntry_unique (here : text ∈ afterEntry elements) (there : text ∈ afterEntry others) :
    elements = others := by
  induction elements generalizing others text with
  | nil =>
      cases others with
      | nil => rfl
      | cons => exact absurd (marked_unique rfl rfl here there).1 (by decide)
  | cons next rest ih =>
      cases others with
      | nil => exact absurd (marked_unique rfl rfl here there).1 (by decide)
      | cons other others =>
          obtain ⟨-, back, here, there⟩ := marked_unique rfl rfl here there
          obtain ⟨rfl, back, here, there⟩ := entry_unique here there
          rw [ih here there]

/-- No value begins with the bracket that closes a list. -/
theorem notMem_of_closing : 0x5D :: text ∉ values := by
  intro here
  have begins : text ∈ (Scanner.beginValue [] 0x5D).language := by
    rw [← Scanner.cons_mem_values_mul]
    exact (mul_one values).symm ▸ here
  exact Language.notMem_zero text begins

theorem entry_not_closing (here : text ∈ blanks * (theValue value * rest))
    (there : text ∈ blanks * (mark 0x5D * rest')) : False := by
  rw [mem_blanks_mul_iff fun _ _ => isBlank_of_entry] at here
  rw [mem_blanks_mul_iff fun _ _ => isBlank_of_marked rfl] at there
  cases begins : text.dropWhile isBlank with
  | nil =>
      rw [begins] at there
      exact nil_notMem_mul_left nil_notMem_mark there
  | cons octet back =>
      rw [begins] at here there
      obtain ⟨rfl, -⟩ := cons_mem_mark_mul.mp there
      obtain ⟨more, known⟩ := exists_value_of_entry here
      exact notMem_of_closing known

theorem entries_unique (here : text ∈ entries elements) (there : text ∈ entries others) :
    elements = others := by
  cases elements with
  | nil =>
      cases others with
      | nil => rfl
      | cons => exact (entry_not_closing there here).elim
  | cons first rest =>
      cases others with
      | nil => exact (entry_not_closing here there).elim
      | cons other others =>
          obtain ⟨rfl, back, here, there⟩ := entry_unique here there
          rw [afterEntry_unique here there]

/-- A text is a list of one row of elements at most. -/
theorem listTexts_unique (here : text ∈ listTexts elements) (there : text ∈ listTexts others) :
    elements = others := by
  obtain ⟨-, back, here, there⟩ := marked_unique rfl rfl here there
  exact entries_unique here there

/-! ## One row of elements at least -/

theorem exists_entries_of_items {inner : Octets} (derived : Derives (.items .list) inner)
    (closed : back ∈ mark 0x5D * blanks) :
    ∃ first rest, inner ++ back ∈ blanks * (theValue first * afterEntry rest) := by
  generalize whole : Part.items .list = part at derived
  induction derived with
  | literal | number | string | empty | full | element | member => cases whole
  | last item =>
      cases whole
      cases item with
      | @element gap value gap' blank element blank' =>
          have known : value ∈ theValue value := ⟨rfl, element⟩
          simp only [List.append_assoc]
          exact ⟨value, [], gap, blank, _,
            ⟨value, known, _, ⟨gap', blank', _, closed, rfl⟩, rfl⟩, rfl⟩
  | more item items _ ih =>
      cases whole
      obtain ⟨first, rest, later⟩ := ih rfl
      cases item with
      | @element gap value gap' blank element blank' =>
          have known : value ∈ theValue value := ⟨rfl, element⟩
          simp only [List.append_assoc, List.cons_append]
          exact ⟨value, first :: rest, gap, blank, _, ⟨value, known, _,
            ⟨gap', blank', _, cons_mem_mark_mul.mpr ⟨rfl, later⟩, rfl⟩, rfl⟩, rfl⟩

/-- Every list is a list of some row of elements. -/
theorem exists_mem_listTexts (here : text ∈ blanks * (bracketed .list * blanks)) :
    ∃ elements, text ∈ listTexts elements := by
  simp only [bracketed, mul_assoc] at here
  obtain ⟨gap, blank, _, ⟨_, rfl, _, ⟨inner, empty | items, back, closed, rfl⟩, rfl⟩, rfl⟩ := here
  · exact ⟨[], gap, blank, _, ⟨_, rfl, _, ⟨inner, empty, back, closed, rfl⟩, rfl⟩, rfl⟩
  · obtain ⟨first, rest, row⟩ := exists_entries_of_items items closed
    exact ⟨first :: rest, gap, blank, _, ⟨_, rfl, _, row, rfl⟩, rfl⟩

/-- What the elements of a list are is settled by its text. -/
theorem existsUnique_elements (here : text ∈ blanks * (bracketed .list * blanks)) :
    ∃! elements, text ∈ listTexts elements := by
  obtain ⟨elements, row⟩ := exists_mem_listTexts here
  exact ⟨elements, row, fun others other => listTexts_unique other row⟩

/-! ## Written lists -/

theorem separated_mem_entry (known : ∀ element ∈ value :: elements, element ∈ values) :
    separated (value :: elements) ++ [0x5D] ∈ theValue value * afterEntry elements := by
  induction elements generalizing value with
  | nil =>
      have here : value ∈ theValue value := ⟨rfl, known value List.mem_cons_self⟩
      apply Language.append_mem_mul here
      exact mem_blanks_mul (cons_mem_mark_mul.mpr ⟨rfl, Language.nil_mem_kstar _⟩)
  | cons next rest ih =>
      obtain ⟨known, later⟩ := List.forall_mem_cons.mp known
      have here : value ∈ theValue value := ⟨rfl, known⟩
      rw [separated, List.append_assoc, List.cons_append]
      apply Language.append_mem_mul here
      exact mem_blanks_mul (cons_mem_mark_mul.mpr ⟨rfl, mem_blanks_mul (ih later)⟩)

/-- What is written for values is a list of them. -/
theorem writeList_mem_listTexts (known : ∀ element ∈ elements, element ∈ values) :
    writeList elements ∈ listTexts elements := by
  apply mem_blanks_mul
  apply cons_mem_mark_mul.mpr
  cases elements with
  | nil => exact ⟨rfl, mem_blanks_mul (cons_mem_mark_mul.mpr ⟨rfl, Language.nil_mem_kstar _⟩)⟩
  | cons => exact ⟨rfl, mem_blanks_mul (separated_mem_entry known)⟩

end

end Rendezvous.Json
