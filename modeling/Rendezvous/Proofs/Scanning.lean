/-
# What a scanner still expects

The language of a scanner holds the texts that complete the value from where it stands,
up to the last of the brackets that are open. What may follow an octet is the language of
the scanner that the octet leads to; where the language has the empty text, the value may
end before the octet.
-/

import Rendezvous.Proofs.Tokens

open scoped Computability

namespace Rendezvous.Json

variable {octet : UInt8} {text : Octets} {rest : Language UInt8}

/-- The one text. -/
def exactly (text : Octets) : Language UInt8 := {text}

/-- What stands in front of the blanks before a comma: a value, in an object with its
key. -/
def itemFront : Container → Language UInt8
  | .list => blanks * values
  | .object => blanks * (string * (blanks * (mark 0x3A * (blanks * values))))

/-- What may follow an element inside the given brackets. -/
def afterElement : List Container → Language UInt8
  | [] => 1
  | container :: outer =>
    blanks * ((mark container.closing +
      mark 0x2C * (texts (.items container) * mark container.closing)) * afterElement outer)

/-- What may follow a key inside the given brackets. -/
def afterKey (enclosing : List Container) : Language UInt8 :=
  blanks * (mark 0x3A * (blanks * (values * afterElement enclosing)))

/-- The texts that complete a value. -/
def Scanner.language (scanner : Scanner) : Language UInt8 :=
  let enclosing := scanner.enclosing
  match scanner.phase with
  | .value => blanks * (values * afterElement enclosing)
  | .listStart =>
    blanks * (mark Container.list.closing * afterElement (enclosing.drop 1) +
      values * afterElement enclosing)
  | .objectStart =>
    blanks * (mark Container.object.closing * afterElement (enclosing.drop 1) +
      string * afterKey enclosing)
  | .key => blanks * (string * afterKey enclosing)
  | .colon => afterKey enclosing
  | .separator => afterElement enclosing
  | .literal [] => 0
  | .literal (expected :: later) => exactly (expected :: later) * afterElement enclosing
  | .number phase => phase.language * afterElement enclosing
  | .string isKey phase =>
    phase.language * if isKey then afterKey enclosing else afterElement enclosing

/-- The texts that complete a value after a step. -/
def ValueStep.language : ValueStep → Language UInt8
  | .more scanner => scanner.language
  | .complete => 1
  | .completeBefore | .refused _ => 0

theorem texts_item (container : Container) :
    texts (.item container) = itemFront container * blanks := by
  cases container with
  | list => rw [texts_item_list, itemFront, mul_assoc]
  | object => simp only [texts_item_object, texts_item_list, itemFront, mul_assoc]

/-- A row of items up to its closing bracket is one item and what may follow it. -/
theorem items_mul (container : Container) (outer : List Container) :
    texts (.items container) * (mark container.closing * afterElement outer) =
      itemFront container * afterElement (container :: outer) := by
  rw [texts_items, texts_item, afterElement]
  simp only [mul_assoc, add_mul, one_mul]

theorem itemFront_list_mul (enclosing : List Container) :
    itemFront .list * afterElement enclosing = blanks * (values * afterElement enclosing) :=
  mul_assoc ..

theorem itemFront_object_mul (enclosing : List Container) :
    itemFront .object * afterElement enclosing = blanks * (string * afterKey enclosing) := by
  simp only [itemFront, afterKey, mul_assoc]

/-- Blanks are skipped; what may follow them does not begin with one. -/
theorem cons_mem_blanks_mul : octet :: text ∈ blanks * rest ↔
    isBlank octet = true ∧ text ∈ blanks * rest ∨ octet :: text ∈ rest := by
  rw [blanks, cons_mem_kstar_mul, among_blanks]

/-- The octets that may come after an element. -/
def isDelimiter (octet : UInt8) : Bool :=
  isBlank octet || octet = 0x2C || octet = 0x5D || octet = 0x7D

theorem nil_notMem_literals : [] ∉ literals := by
  rintro ⟨word, known, same⟩
  simp only [List.mem_cons, List.not_mem_nil, or_false] at known
  rcases known with rfl | rfl | rfl <;> exact absurd same (by decide)

theorem nil_notMem_string : [] ∉ string := nil_notMem_mul_left nil_notMem_mark

theorem nil_notMem_bracketed (container : Container) : [] ∉ bracketed container :=
  nil_notMem_mul_left nil_notMem_mark

theorem nil_notMem_values : [] ∉ values := by
  rw [values_eq]
  rintro ((((known | spelled) | spelled) | brackets) | brackets)
  · exact nil_notMem_literals known
  · exact nil_notMem_number spelled
  · exact nil_notMem_string spelled
  · exact nil_notMem_bracketed .list brackets
  · exact nil_notMem_bracketed .object brackets

theorem cons_mem_exactly_mul {expected : UInt8} {later : Octets} :
    octet :: text ∈ exactly (expected :: later) * rest ↔
      octet = expected ∧ text ∈ exactly later * rest := by
  constructor
  · rintro ⟨-, rfl, back, here, whole⟩
    cases whole
    exact ⟨rfl, later, rfl, back, here, rfl⟩
  · rintro ⟨rfl, -, rfl, back, here, rfl⟩
    exact ⟨_, rfl, back, here, rfl⟩

theorem exactly_nil_mul : exactly [] * rest = rest := one_mul rest

theorem eq_of_literalRest? {later : Octets} (found : literalRest? octet = some later) :
    octet = 0x6E ∧ later = [0x75, 0x6C, 0x6C] ∨ octet = 0x74 ∧ later = [0x72, 0x75, 0x65] ∨
      octet = 0x66 ∧ later = [0x61, 0x6C, 0x73, 0x65] := by
  unfold literalRest? at found
  split at found
  · next letter => exact .inl ⟨letter, (Option.some.inj found).symm⟩
  split at found
  · next letter => exact .inr (.inl ⟨letter, (Option.some.inj found).symm⟩)
  split at found
  · next letter => exact .inr (.inr ⟨letter, (Option.some.inj found).symm⟩)
  · cases found

theorem cons_mem_literals : octet :: text ∈ literals ↔ literalRest? octet = some text := by
  have null : Octets.ofText "null" = [0x6E, 0x75, 0x6C, 0x6C] := by decide
  have yes : Octets.ofText "true" = [0x74, 0x72, 0x75, 0x65] := by decide
  have no : Octets.ofText "false" = [0x66, 0x61, 0x6C, 0x73, 0x65] := by decide
  constructor
  · rintro ⟨word, known, same⟩
    simp only [List.mem_cons, List.not_mem_nil, or_false] at known
    rcases known with rfl | rfl | rfl
    · cases same.trans null
      rfl
    · cases same.trans yes
      rfl
    · cases same.trans no
      rfl
  · intro found
    rcases eq_of_literalRest? found with ⟨rfl, rfl⟩ | ⟨rfl, rfl⟩ | ⟨rfl, rfl⟩
    · exact ⟨"null", by simp, null.symm⟩
    · exact ⟨"true", by simp, yes.symm⟩
    · exact ⟨"false", by simp, no.symm⟩

theorem cons_mem_literals_mul : octet :: text ∈ literals * rest ↔
    ∃ later, literalRest? octet = some later ∧ text ∈ exactly later * rest := by
  have step : ∀ text, octet :: text ∈ literals ↔
      text ∈ ({later | literalRest? octet = some later} : Language UInt8) := fun _ =>
    cons_mem_literals
  rw [cons_mem_mul_of_nil_notMem step nil_notMem_literals]
  constructor
  · rintro ⟨later, found, back, here, rfl⟩
    exact ⟨later, found, later, rfl, back, here, rfl⟩
  · rintro ⟨_, found, _, rfl, back, here, rfl⟩
    exact ⟨_, found, back, here, rfl⟩

theorem cons_mem_number_mul : octet :: text ∈ number * rest ↔
    ∃ phase, NumberPhase.start? octet = some phase ∧ text ∈ phase.language * rest := by
  have step : ∀ text, octet :: text ∈ number ↔ text ∈ ({text | ∃ phase,
      NumberPhase.start? octet = some phase ∧ text ∈ phase.language} : Language UInt8) := fun _ =>
    cons_mem_number
  rw [cons_mem_mul_of_nil_notMem step nil_notMem_number]
  constructor
  · rintro ⟨front, ⟨phase, starts, spelled⟩, back, here, rfl⟩
    exact ⟨phase, starts, front, spelled, back, here, rfl⟩
  · rintro ⟨phase, starts, front, spelled, back, here, rfl⟩
    exact ⟨front, ⟨phase, starts, spelled⟩, back, here, rfl⟩

theorem cons_mem_string_mul : octet :: text ∈ string * rest ↔
    octet = 0x22 ∧ text ∈ ScanPhase.plain.language * rest := by
  rw [string, mul_assoc, cons_mem_mark_mul]
  rfl

namespace NumberPhase

variable {phase : NumberPhase}

theorem isComplete_of_ended (ended : phase.step octet = .ended) : phase.isComplete = true := by
  cases phase with
  | zero | whole | fraction | exponent => rfl
  | minus | point | exponentMark | exponentSign =>
      simp only [step] at ended
      repeat' split at ended
      all_goals cases ended

/-- A delimiter ends a number that may end. -/
theorem step_of_isDelimiter (complete : phase.isComplete = true)
    (delimiter : isDelimiter octet = true) : phase.step octet = .ended := by
  simp only [isDelimiter, isBlank, Bool.or_eq_true, decide_eq_true_eq] at delimiter
  cases phase with
  | minus | point | exponentMark | exponentSign => cases complete
  | zero | whole | fraction | exponent =>
      rcases delimiter with (((((rfl | rfl) | rfl) | rfl) | rfl) | rfl) | rfl <;> rfl

end NumberPhase

namespace Scanner

theorem language_endElement (enclosing : List Container) :
    (endElement enclosing).language = afterElement enclosing := by
  cases enclosing <;> rfl

/-- A list after its opening bracket. -/
theorem cons_mem_list_mul {enclosing : List Container} :
    octet :: text ∈ bracketed .list * afterElement enclosing ↔
      octet = 0x5B ∧ text ∈ (Scanner.mk .listStart (.list :: enclosing)).language := by
  rw [bracketed, mul_assoc, cons_mem_mark_mul, mul_assoc, add_mul,
    Container.brackets_snd, items_mul, itemFront_list_mul, ← mul_add]
  rfl

/-- An object after its opening bracket. -/
theorem cons_mem_object_mul {enclosing : List Container} :
    octet :: text ∈ bracketed .object * afterElement enclosing ↔
      octet = 0x7B ∧ text ∈ (Scanner.mk .objectStart (.object :: enclosing)).language := by
  rw [bracketed, mul_assoc, cons_mem_mark_mul, mul_assoc, add_mul,
    Container.brackets_snd, items_mul, itemFront_object_mul, ← mul_add]
  rfl

/-- The first octet of a value. -/
theorem cons_mem_values_mul {enclosing : List Container} :
    octet :: text ∈ values * afterElement enclosing ↔
      text ∈ (beginValue enclosing octet).language := by
  simp only [values_eq, add_mul, Language.mem_add, cons_mem_literals_mul, cons_mem_number_mul,
    cons_mem_string_mul, cons_mem_list_mul, cons_mem_object_mul]
  unfold beginValue
  by_cases quote : octet = 0x22
  · subst quote
    simp [literalRest?, NumberPhase.start?, isDigit, ValueStep.language, language]
  by_cases list : octet = 0x5B
  · subst list
    simp [literalRest?, NumberPhase.start?, isDigit, ValueStep.language]
  by_cases object : octet = 0x7B
  · subst object
    simp [literalRest?, NumberPhase.start?, isDigit, ValueStep.language]
  simp only [quote, list, object, false_and, or_false, if_false]
  cases literal : literalRest? octet with
  | some later =>
      have noNumber : NumberPhase.start? octet = none := by
        rcases eq_of_literalRest? literal with ⟨rfl, -⟩ | ⟨rfl, -⟩ | ⟨rfl, -⟩ <;> rfl
      obtain ⟨expected, later, rfl⟩ : ∃ expected rest, later = expected :: rest := by
        rcases eq_of_literalRest? literal with ⟨-, rfl⟩ | ⟨-, rfl⟩ | ⟨-, rfl⟩ <;>
          exact ⟨_, _, rfl⟩
      simp [noNumber, ValueStep.language, language]
  | none =>
      cases starts : NumberPhase.start? octet with
      | some phase => simp [ValueStep.language, language]
      | none => simp [ValueStep.language]

theorem language_beginValue_of_isBlank {enclosing : List Container}
    (blank : isBlank octet = true) : (beginValue enclosing octet).language = 0 := by
  simp only [isBlank, Bool.or_eq_true, decide_eq_true_eq] at blank
  rcases blank with ((rfl | rfl) | rfl) | rfl <;> rfl

theorem isBlank_of_cons_mem_values (here : octet :: text ∈ values) : isBlank octet = false := by
  have begins : text ∈ (beginValue [] octet).language := by
    rw [← cons_mem_values_mul]
    exact (mul_one values).symm ▸ here
  by_contra blank
  rw [language_beginValue_of_isBlank (Bool.of_not_eq_false blank)] at begins
  exact Language.notMem_zero text begins

/-- The first octet of a key. -/
theorem cons_mem_string_mul_afterKey {enclosing : List Container} :
    octet :: text ∈ string * afterKey enclosing ↔
      text ∈ (beginKey enclosing octet).language := by
  rw [cons_mem_string_mul, beginKey]
  by_cases quote : octet = 0x22 <;> simp [quote, ValueStep.language, language]

/-- The first octet after an opening bracket that is no blank. -/
theorem cons_mem_closing_mul_add {closing : UInt8} {outer : List Container} {other : ValueStep}
    (otherwise : octet :: text ∈ rest ↔ text ∈ other.language)
    (refuses : octet = closing → other.language = 0) :
    octet :: text ∈ mark closing * afterElement outer + rest ↔
      text ∈ (if octet = closing then endElement outer else other).language := by
  rw [Language.mem_add, cons_mem_mark_mul, otherwise]
  by_cases same : octet = closing
  · simp [same, refuses same, language_endElement]
  · simp [same]

/-- Blanks in front of a token change nothing. -/
theorem cons_mem_skip {scanner : Scanner} {other : ValueStep}
    (skips : scanner.language = blanks * rest)
    (visible : octet :: text ∈ rest ↔ text ∈ other.language)
    (refuses : isBlank octet = true → other.language = 0) :
    octet :: text ∈ scanner.language ↔
      text ∈ (if isBlank octet then ValueStep.more scanner else other).language := by
  rw [skips, cons_mem_blanks_mul, visible]
  cases blank : isBlank octet with
  | true =>
      rw [refuses blank]
      simp only [Language.notMem_zero, or_false, true_and, if_true]
      exact iff_of_eq (congrArg (text ∈ ·) skips.symm)
  | false => simp

theorem language_beginKey_of_isBlank {enclosing : List Container}
    (blank : isBlank octet = true) : (beginKey enclosing octet).language = 0 := by
  simp only [isBlank, Bool.or_eq_true, decide_eq_true_eq] at blank
  rcases blank with ((rfl | rfl) | rfl) | rfl <;> rfl

/-- A comma leads to the next item. -/
theorem language_afterComma (container : Container) (outer : List Container) :
    texts (.items container) * (mark container.closing * afterElement outer) =
      (match container with
        | .list => ValueStep.more ⟨.value, container :: outer⟩
        | .object => .more ⟨.key, container :: outer⟩).language := by
  rw [items_mul]
  cases container with
  | list => exact itemFront_list_mul _
  | object => exact itemFront_object_mul _

theorem isDelimiter_of_mem_separate {enclosing : List Container}
    (here : text ∈ (separate enclosing octet).language) : isDelimiter octet = true := by
  unfold separate at here
  split at here
  · cases here
  · next container outer =>
    split at here
    · next blank => simp [isDelimiter, blank]
    split at here
    · next comma => simp [isDelimiter, comma]
    split at here
    · next closing => cases container <;> simp [isDelimiter, closing, Container.closing]
    · cases here

/-- The first octet after an element: blanks, a comma or the closing bracket. -/
theorem cons_mem_afterElement {enclosing : List Container} :
    octet :: text ∈ afterElement enclosing ↔ text ∈ (separate enclosing octet).language := by
  cases enclosing with
  | nil => exact iff_of_false nofun (Language.notMem_zero text)
  | cons container outer =>
      have comma_ne : (0x2C : UInt8) ≠ container.closing := by cases container <;> decide
      have skips : (Scanner.mk .separator (container :: outer)).language = _ := rfl
      apply cons_mem_skip skips
      · rw [add_mul, Language.mem_add, cons_mem_mark_mul, mul_assoc, cons_mem_mark_mul,
          mul_assoc, language_afterComma]
        by_cases comma : octet = 0x2C
        · subst comma
          rw [or_iff_right fun both => comma_ne both.1, if_pos rfl]
          exact and_iff_right rfl
        by_cases closing : octet = container.closing
        · simp [closing, language_endElement, comma_ne.symm]
        · simp [comma, closing, ValueStep.language]
      · intro blank
        have comma : octet ≠ 0x2C := by
          rintro rfl
          cases blank
        have closing : octet ≠ container.closing := by
          rintro rfl
          cases container <;> cases blank
        simp [comma, closing, ValueStep.language]

theorem cons_mem_exactly_cons_mul {expected : UInt8} {later : Octets} {enclosing : List Container} :
    octet :: text ∈ exactly (expected :: later) * afterElement enclosing ↔
      text ∈ (Scanner.step ⟨.literal (expected :: later), enclosing⟩ octet).language := by
  rw [cons_mem_exactly_mul]
  by_cases same : octet = expected
  · cases later with
    | nil => simp [step, same, exactly_nil_mul, language_endElement]
    | cons next rest => simp [step, same, ValueStep.language, language]
  · simp [step, same, ValueStep.language]

/-- After a number there is what may follow an element. -/
theorem cons_mem_phase_mul {phase : NumberPhase} {enclosing : List Container} :
    octet :: text ∈ phase.language * afterElement enclosing ↔
      text ∈ (Scanner.step ⟨.number phase, enclosing⟩ octet).language := by
  rw [cons_mem_mul fun _ => phase.cons_mem_language, phase.nil_mem_language,
    cons_mem_afterElement]
  -- What follows the number does not also continue it.
  have apart (continued : phase.step octet ≠ .ended) :
      ¬ (phase.isComplete = true ∧ text ∈ (separate enclosing octet).language) := by
    rintro ⟨complete, here⟩
    exact continued (NumberPhase.step_of_isDelimiter complete (isDelimiter_of_mem_separate here))
  cases taken : phase.step octet with
  | more next =>
      rw [or_iff_right (apart (by simp [taken]))]
      simp only [step, taken, ValueStep.language, language, NumberStep.language]
  | ended =>
      simp [step, taken, NumberPhase.isComplete_of_ended taken, NumberStep.language]
  | invalid =>
      rw [or_iff_right (apart (by simp [taken]))]
      simp [step, taken, ValueStep.language, NumberStep.language]

/-- What may follow an octet is the language of where the octet leads. -/
theorem cons_mem_language (scanner : Scanner) :
    octet :: text ∈ scanner.language ↔ text ∈ (scanner.step octet).language := by
  obtain ⟨phase, enclosing⟩ := scanner
  cases phase with
  | value => exact cons_mem_skip rfl cons_mem_values_mul language_beginValue_of_isBlank
  | listStart =>
      apply cons_mem_skip rfl
      · apply cons_mem_closing_mul_add cons_mem_values_mul
        rintro rfl
        rfl
      · intro blank
        rw [if_neg (by rintro rfl; cases blank), language_beginValue_of_isBlank blank]
  | objectStart =>
      apply cons_mem_skip rfl
      · apply cons_mem_closing_mul_add cons_mem_string_mul_afterKey
        rintro rfl
        rfl
      · intro blank
        rw [if_neg (by rintro rfl; cases blank), language_beginKey_of_isBlank blank]
  | key =>
      exact cons_mem_skip rfl cons_mem_string_mul_afterKey language_beginKey_of_isBlank
  | colon =>
      apply cons_mem_skip rfl
      · rw [cons_mem_mark_mul]
        by_cases colon : octet = 0x3A <;> simp [colon, ValueStep.language, language]
      · intro blank
        rw [if_neg (by rintro rfl; cases blank)]
        rfl
  | separator => exact cons_mem_afterElement
  | literal rest =>
      cases rest with
      | nil => exact iff_of_false (Language.notMem_zero _) (Language.notMem_zero _)
      | cons expected later => exact cons_mem_exactly_cons_mul
  | number phase => exact cons_mem_phase_mul
  | string isKey phase =>
      rw [language, cons_mem_mul_of_nil_notMem (fun _ => phase.cons_mem_language)
        phase.nil_notMem_language]
      cases taken : phase.step octet with
      | more next => simp only [step, taken, ScanStep.language, ValueStep.language, language]
      | closed =>
          simp only [step, taken, ScanStep.language, one_mul]
          cases isKey with
          | true => rfl
          | false => exact iff_of_eq (congrArg (text ∈ ·) (language_endElement enclosing).symm)
      | refused refusal => simp [step, taken, ScanStep.language, ValueStep.language]

/-! ## Where a value may end -/

theorem nil_mem_afterElement {enclosing : List Container} :
    [] ∈ afterElement enclosing ↔ enclosing = [] := by
  cases enclosing with
  | nil => exact iff_of_true rfl rfl
  | cons container outer =>
      refine iff_of_false (fun empty => ?_) nofun
      rcases (nil_mem_mul.mp (nil_mem_mul.mp empty).2).1 with closing | comma
      · exact nil_notMem_mark closing
      · exact nil_notMem_mark (nil_mem_mul.mp comma).1

/-- A value may end outside all brackets, after an element or with a number. -/
theorem nil_mem_language (scanner : Scanner) : [] ∈ scanner.language ↔
    scanner.enclosing = [] ∧ (scanner.phase = .separator ∨
      ∃ phase, scanner.phase = .number phase ∧ phase.isComplete = true) := by
  obtain ⟨phase, enclosing⟩ := scanner
  have unfinished (language : [] ∉ (Scanner.mk phase enclosing).language)
      (inside : phase ≠ .separator ∧ ∀ number, phase ≠ .number number) :
      [] ∈ (Scanner.mk phase enclosing).language ↔ enclosing = [] ∧ (phase = .separator ∨
        ∃ number, phase = .number number ∧ number.isComplete = true) := by
    simp [language, inside]
  cases phase with
  | separator =>
      rw [language, nil_mem_afterElement]
      simp
  | number phase =>
      rw [language, nil_mem_mul, phase.nil_mem_language, nil_mem_afterElement]
      simp [and_comm]
  | value =>
      exact unfinished (nil_notMem_mul_right (nil_notMem_mul_left nil_notMem_values)) (by simp)
  | listStart =>
      apply unfinished (nil_notMem_mul_right _) (by simp)
      rintro (closing | element)
      · exact nil_notMem_mul_left nil_notMem_mark closing
      · exact nil_notMem_mul_left nil_notMem_values element
  | objectStart =>
      apply unfinished (nil_notMem_mul_right _) (by simp)
      rintro (closing | key)
      · exact nil_notMem_mul_left nil_notMem_mark closing
      · exact nil_notMem_mul_left nil_notMem_string key
  | key =>
      exact unfinished (nil_notMem_mul_right (nil_notMem_mul_left nil_notMem_string)) (by simp)
  | colon =>
      exact unfinished (nil_notMem_mul_right (nil_notMem_mul_left nil_notMem_mark)) (by simp)
  | literal rest =>
      cases rest with
      | nil => exact unfinished (Language.notMem_zero []) (by simp)
      | cons expected later => exact unfinished (nil_notMem_mul_left nofun) (by simp)
  | string isKey phase =>
      exact unfinished (nil_notMem_mul_left phase.nil_notMem_language) (by simp)

theorem separate_eq_completeBefore {enclosing : List Container} :
    separate enclosing octet = .completeBefore ↔ enclosing = [] := by
  cases enclosing with
  | nil => exact iff_of_true rfl rfl
  | cons container outer =>
      refine iff_of_false (fun ends => ?_) nofun
      cases outer <;> cases container <;> simp only [separate, endElement] at ends <;>
        repeat' split at ends
      all_goals cases ends

/-- At a delimiter a value ends if it may. -/
theorem completeBefore_of_nil_mem {scanner : Scanner} (whole : [] ∈ scanner.language)
    (delimiter : isDelimiter octet = true) : scanner.step octet = .completeBefore := by
  obtain ⟨phase, enclosing⟩ := scanner
  obtain ⟨rfl, rfl | ⟨number, rfl, complete⟩⟩ := (nil_mem_language _).mp whole
  · rfl
  · simp only [step, NumberPhase.step_of_isDelimiter complete delimiter]
    rfl

/-- A value that ends before an octet may end there. -/
theorem nil_mem_of_completeBefore {scanner : Scanner}
    (ends : scanner.step octet = .completeBefore) : [] ∈ scanner.language := by
  obtain ⟨phase, enclosing⟩ := scanner
  rw [nil_mem_language]
  cases phase with
  | separator => exact ⟨separate_eq_completeBefore.mp ends, .inl rfl⟩
  | number phase =>
      cases taken : phase.step octet with
      | ended =>
          simp only [step, taken] at ends
          exact ⟨separate_eq_completeBefore.mp ends,
            .inr ⟨phase, rfl, NumberPhase.isComplete_of_ended taken⟩⟩
      | more _ | invalid =>
          simp only [step, taken] at ends
          cases ends
  | value | listStart | objectStart | key | colon | literal _ | string _ _ =>
      -- No step of these phases looks beyond the end of a value.
      simp only [step, beginValue, beginKey, endElement] at ends
      repeat' split at ends
      all_goals cases ends

end Scanner

end Rendezvous.Json
