/-
# Which texts are frames

A frame is an object whose keys can be decoded; its values are values of any kind, and
blanks may stand around every token. The grammar of objects is given for a list of
members, so that it also says which members a text has. The reader of a frame accepts
exactly the texts of the grammar and returns their members.
-/

import Rendezvous.Proofs.Decoding
import Rendezvous.Proofs.RawValues
import Rendezvous.Proofs.Scanning

open scoped Computability

namespace Rendezvous.Json

/-! ## The grammar of objects -/

/-- A decoded key with the text of its value. -/
abbrev Member := Octets × Octets

/-- One value. -/
def theValue (value : Octets) : Language UInt8 := {text | text = value ∧ value ∈ values}

/-- What follows a key. -/
def afterName (value : Octets) : Language UInt8 :=
  blanks * (mark 0x3A * (blanks * theValue value))

/-- A member without the blanks behind it. -/
def memberTexts (member : Member) : Language UInt8 :=
  blanks * (spellings member.1 * afterName member.2)

/-- Members with commas between them. -/
def rowTexts : List Member → Language UInt8
  | [] => blanks
  | [member] => memberTexts member * blanks
  | member :: next :: rest => memberTexts member * (blanks * (mark 0x2C * rowTexts (next :: rest)))

/-- Objects with the given members. -/
def objectTexts (members : List Member) : Language UInt8 :=
  blanks * (mark 0x7B * (rowTexts members * (mark 0x7D * blanks)))

/-! ## What is still missing of an object -/

theorem spellings_eq (key : Octets) :
    spellings key = mark 0x22 * Decoder.start.language key := by
  ext text
  constructor
  · rintro ⟨spelling, spells, rfl⟩
    exact ⟨_, rfl, _, ⟨spelling, key, spells, rfl, rfl⟩, rfl⟩
  · rintro ⟨-, rfl, -, ⟨spelling, said, spells, rfl, rfl⟩, rfl⟩
    exact ⟨spelling, spells, rfl⟩

/-- What may follow the first members of an object when others are still to come. -/
def afterMember : List Member → Language UInt8
  | [] => blanks * (mark 0x7D * blanks)
  | next :: rest => blanks * (mark 0x2C * (rowTexts (next :: rest) * (mark 0x7D * blanks)))

theorem rowTexts_cons_mul (member : Member) (rest : List Member) :
    rowTexts (member :: rest) * (mark 0x7D * blanks) = memberTexts member * afterMember rest := by
  cases rest <;> simp only [rowTexts, afterMember, mul_assoc]

theorem memberTexts_mul (member : Member) (rest : Language UInt8) :
    memberTexts member * rest =
      blanks * (mark 0x22 * (Decoder.start.language member.1 * (afterName member.2 * rest))) := by
  simp only [memberTexts, spellings_eq, mul_assoc]

/-- Texts that begin inside the next member, if there is one. -/
def inMember (texts : Member → List Member → Language UInt8) : List Member → Language UInt8
  | [] => 0
  | next :: rest => texts next rest

/-- What is still missing of a value of which some octets have been read, the latest
first. -/
def restOfValue (step : ValueStep) (raw content : Octets) : Language UInt8 :=
  {text | content = raw.reverse ++ text ∧ text ∈ step.language}

/-- The texts that complete an object with the members that are still to come. -/
def FramePhase.language (phase : FramePhase) (further : List Member) : Language UInt8 :=
  match phase with
  | .document => objectTexts further
  | .topLiteral _ _ | .topNumber _ _ | .topString _ => 0
  | .firstKey => rowTexts further * (mark 0x7D * blanks)
  | .nextKey =>
    further |> inMember fun next rest =>
      blanks * (mark 0x22 *
        (Decoder.start.language next.1 * (afterName next.2 * afterMember rest)))
  | .key decoder =>
    further |> inMember fun next rest =>
      decoder.language next.1 * (afterName next.2 * afterMember rest)
  | .colon name =>
    further |> inMember fun next rest =>
      if next.1 = name then afterName next.2 * afterMember rest else 0
  | .beforeValue name =>
    further |> inMember fun next rest =>
      if next.1 = name then blanks * (theValue next.2 * afterMember rest) else 0
  | .value name scanner raw =>
    further |> inMember fun next rest =>
      if next.1 = name then restOfValue (.more scanner) raw next.2 * afterMember rest else 0
  | .separator => afterMember further
  | .finished => if further = [] then blanks else 0

namespace Reader

/-- The texts that make a reader end with the target. -/
def language (reader : Reader) (target : List Member) : Language UInt8 :=
  {text | ∃ further, target = reader.members.reverse ++ further ∧
    text ∈ reader.phase.language further}

/-- The texts that make a reader end with the target after a step. -/
def languageOf (step : Except Refusal Reader) (target : List Member) : Language UInt8 :=
  match step with
  | .ok next => next.language target
  | .error _ => 0

/-- The texts that complete an object after a step. -/
def phaseLanguageOf (step : Except Refusal Reader) (further : List Member) : Language UInt8 :=
  match step with
  | .ok next => next.phase.language further
  | .error _ => 0

variable {reader : Reader} {octet : UInt8} {text : Octets} {target further : List Member}
  {rest : Language UInt8} {expected : UInt8}

variable {phase : FramePhase} {members : List Member}

/-- In front of a token blanks change nothing, and the token begins with an octet of its
own. -/
theorem cons_mem_skip {other : Except Refusal Reader}
    (skips : phase.language further = blanks * (mark expected * rest))
    (shown : isBlank expected = false)
    (visible : octet = expected ∧ text ∈ rest ↔ text ∈ phaseLanguageOf other further) :
    octet :: text ∈ phase.language further ↔
      text ∈ phaseLanguageOf (if isBlank octet then .ok ⟨phase, members⟩ else other) further := by
  rw [skips, cons_mem_blanks_mul, cons_mem_mark_mul]
  cases blank : isBlank octet with
  | true =>
      have ne : octet ≠ expected := by
        rintro rfl
        rw [blank] at shown
        cases shown
      rw [or_iff_left fun both => ne both.1, if_pos rfl, phaseLanguageOf, skips]
      exact and_iff_right rfl
  | false => simpa using visible

/-- What takes the place of an object is never completed to one. -/
theorem notMem_openDocument (brace : octet ≠ 0x7B) :
    text ∉ phaseLanguageOf (openDocument ⟨phase, members⟩ octet) further := by
  unfold openDocument
  rw [if_neg brace]
  split
  · exact Language.notMem_zero text
  split
  · exact Language.notMem_zero text
  split
  · exact Language.notMem_zero text
  · split <;> exact Language.notMem_zero text

theorem document_law : octet :: text ∈ FramePhase.document.language further ↔
    text ∈ phaseLanguageOf (step ⟨.document, members⟩ octet) further := by
  refine cons_mem_skip rfl rfl ?_
  by_cases brace : octet = 0x7B
  · simp [openDocument, brace, phaseLanguageOf, FramePhase.language]
  · simp [brace, notMem_openDocument brace]

theorem firstKey_law : octet :: text ∈ FramePhase.firstKey.language further ↔
    text ∈ phaseLanguageOf (step ⟨.firstKey, members⟩ octet) further := by
  cases further with
  | nil =>
      refine cons_mem_skip rfl rfl ?_
      by_cases brace : octet = 0x7D
      · simp [brace, phaseLanguageOf, FramePhase.language]
      · by_cases quote : octet = 0x22 <;>
          simp [brace, quote, phaseLanguageOf, FramePhase.language, inMember]
  | cons next rest =>
      refine cons_mem_skip ((rowTexts_cons_mul next rest).trans (memberTexts_mul next _)) rfl ?_
      by_cases quote : octet = 0x22
      · simp [quote, phaseLanguageOf, FramePhase.language, inMember]
      · by_cases brace : octet = 0x7D <;>
          simp [quote, brace, phaseLanguageOf, FramePhase.language]

theorem nextKey_law : octet :: text ∈ FramePhase.nextKey.language further ↔
    text ∈ phaseLanguageOf (step ⟨.nextKey, members⟩ octet) further := by
  cases further with
  | nil =>
      refine iff_of_false (Language.notMem_zero _) ?_
      simp only [step]
      split
      · exact Language.notMem_zero text
      split
      · exact Language.notMem_zero text
      · split <;> exact Language.notMem_zero text
  | cons next rest =>
      refine cons_mem_skip rfl rfl ?_
      by_cases quote : octet = 0x22
      · simp [quote, phaseLanguageOf, FramePhase.language, inMember]
      · by_cases brace : octet = 0x7D <;> simp [quote, brace, phaseLanguageOf]

theorem key_law {decoder : Decoder} : octet :: text ∈ (FramePhase.key decoder).language further ↔
    text ∈ phaseLanguageOf (step ⟨.key decoder, members⟩ octet) further := by
  cases further with
  | nil =>
      refine iff_of_false (Language.notMem_zero _) ?_
      simp only [step]
      split <;> exact Language.notMem_zero text
  | cons next rest =>
      rw [FramePhase.language, inMember, cons_mem_mul_of_nil_notMem
        (fun _ => Decoder.cons_mem_language) Decoder.nil_notMem_language]
      cases taken : decoder.step octet with
      | more later => simp [step, taken, DecodeStep.language, phaseLanguageOf, FramePhase.language,
          inMember]
      | closed decoded =>
          by_cases same : next.1 = decoded <;>
            simp [step, taken, same, DecodeStep.language, phaseLanguageOf, FramePhase.language,
              inMember]
      | refused refusal => simp [step, taken, DecodeStep.language, phaseLanguageOf]

theorem colon_law {name : Octets} : octet :: text ∈ (FramePhase.colon name).language further ↔
    text ∈ phaseLanguageOf (step ⟨.colon name, members⟩ octet) further := by
  have dead (here : (FramePhase.colon name).language further = 0)
      (later : (FramePhase.beforeValue name).language further = 0) :
      octet :: text ∈ (FramePhase.colon name).language further ↔
        text ∈ phaseLanguageOf (step ⟨.colon name, members⟩ octet) further := by
    simp only [here, step]
    split
    · simp [phaseLanguageOf, here]
    · split <;> simp [phaseLanguageOf, later]
  cases further with
  | nil => exact dead rfl rfl
  | cons next rest =>
      by_cases same : next.1 = name
      · have here : (FramePhase.colon name).language (next :: rest) =
            blanks * (mark 0x3A * (FramePhase.beforeValue name).language (next :: rest)) := by
          simp only [FramePhase.language, inMember, if_pos same, afterName, mul_assoc]
        refine cons_mem_skip here rfl ?_
        by_cases colon : octet = 0x3A <;> simp [colon, phaseLanguageOf]
      · apply dead <;> simp [FramePhase.language, inMember, same]

/-- After a member there are blanks, a comma or the end of the object. -/
theorem separate_law : octet :: text ∈ FramePhase.separator.language further ↔
    text ∈ phaseLanguageOf (separate ⟨phase, members⟩ octet) further := by
  cases further with
  | nil =>
      refine cons_mem_skip rfl rfl ?_
      by_cases comma : octet = 0x2C
      · simp [comma, phaseLanguageOf, FramePhase.language, inMember]
      · by_cases brace : octet = 0x7D <;> simp [comma, brace, phaseLanguageOf, FramePhase.language]
  | cons next rest =>
      refine cons_mem_skip rfl rfl ?_
      by_cases comma : octet = 0x2C
      · simp [comma, phaseLanguageOf, FramePhase.language, inMember, rowTexts_cons_mul,
          memberTexts_mul]
      · by_cases brace : octet = 0x7D <;> simp [comma, brace, phaseLanguageOf, FramePhase.language]

theorem finished_law : octet :: text ∈ FramePhase.finished.language further ↔
    text ∈ phaseLanguageOf (step ⟨.finished, members⟩ octet) further := by
  have only : octet :: text ∈ blanks ↔ isBlank octet = true ∧ text ∈ blanks := by
    rw [← mul_one blanks, cons_mem_blanks_mul]
    simp [Language.mem_one]
  cases further with
  | nil =>
      rw [FramePhase.language, if_pos rfl, only]
      cases blank : isBlank octet <;> simp [step, blank, phaseLanguageOf, FramePhase.language]
  | cons next rest =>
      cases blank : isBlank octet <;> simp [step, blank, phaseLanguageOf, FramePhase.language]

/-! ## Values in the frame -/

/-- Outside a value it is enough to look at the phases. -/
theorem cons_mem_language_of_quiet (quiet : reader.phase.raw? = none)
    (law : ∀ further, octet :: text ∈ reader.phase.language further ↔
      text ∈ phaseLanguageOf (reader.step octet) further) :
    octet :: text ∈ reader.language target ↔ text ∈ languageOf (reader.step octet) target := by
  have whole : octet :: text ∈ reader.language target ↔ ∃ further,
      target = reader.members.reverse ++ further ∧
        text ∈ phaseLanguageOf (reader.step octet) further :=
    exists_congr fun further => and_congr_right fun _ => law further
  rw [whole]
  cases stepped : reader.step octet with
  | error refusal =>
      refine iff_of_false ?_ (Language.notMem_zero text)
      rintro ⟨further, -, here⟩
      exact Language.notMem_zero text here
  | ok next =>
      have same : next.members = reader.members := by
        cases step_keeps stepped with
        | idle members fresh => exact members
        | more before members longer => exact members
        | ends before last members fresh =>
            rw [quiet] at before
            cases before
      rw [← same]
      rfl

/-- A reader that has read the key of a member needs a member with that key. -/
theorem mem_language_of_named {name : Octets} {texts : Octets → List Member → Language UInt8}
    (named : ∀ further, phase.language further =
      inMember (fun next rest => if next.1 = name then texts next.2 rest else 0) further) :
    text ∈ (Reader.mk phase members).language target ↔ ∃ content rest,
      target = members.reverse ++ (name, content) :: rest ∧ text ∈ texts content rest := by
  constructor
  · rintro ⟨further, rfl, here⟩
    rw [named] at here
    cases further with
    | nil => exact absurd here (Language.notMem_zero text)
    | cons next rest =>
        obtain ⟨key, content⟩ := next
        dsimp only [inMember] at here
        split at here
        · next same =>
          cases same
          exact ⟨content, rest, rfl, here⟩
        · exact absurd here (Language.notMem_zero text)
  · rintro ⟨content, rest, rfl, here⟩
    refine ⟨(name, content) :: rest, rfl, ?_⟩
    rw [named]
    simpa only [inMember, if_true] using here

theorem mem_language_value {name : Octets} {scanner : Scanner} {raw : Octets} :
    text ∈ (Reader.mk (.value name scanner raw) members).language target ↔ ∃ content rest,
      target = members.reverse ++ (name, content) :: rest ∧
        text ∈ restOfValue (.more scanner) raw content * afterMember rest :=
  mem_language_of_named fun _ => rfl

theorem mem_language_beforeValue {name : Octets} :
    text ∈ (Reader.mk (.beforeValue name) members).language target ↔ ∃ content rest,
      target = members.reverse ++ (name, content) :: rest ∧
        text ∈ blanks * (theValue content * afterMember rest) :=
  mem_language_of_named fun _ => rfl

theorem mem_language_separator {name content : Octets} :
    text ∈ (Reader.mk .separator ((name, content) :: members)).language target ↔ ∃ rest,
      target = members.reverse ++ (name, content) :: rest ∧ text ∈ afterMember rest := by
  simp only [language, List.reverse_cons, List.append_assoc, List.singleton_append]
  rfl

theorem isDelimiter_of_mem_afterMember (here : octet :: text ∈ afterMember further) :
    isDelimiter octet = true := by
  cases further with
  | nil =>
      rw [afterMember, cons_mem_blanks_mul, cons_mem_mark_mul] at here
      rcases here with ⟨blank, -⟩ | ⟨rfl, -⟩
      · simp [isDelimiter, blank]
      · rfl
  | cons next rest =>
      rw [afterMember, cons_mem_blanks_mul, cons_mem_mark_mul] at here
      rcases here with ⟨blank, -⟩ | ⟨rfl, -⟩
      · simp [isDelimiter, blank]
      · rfl

section

variable {name : Octets} {scanner : Scanner} {raw content : Octets}

theorem nil_mem_restOfValue : [] ∈ restOfValue (.more scanner) raw content ↔
    content = raw.reverse ∧ [] ∈ scanner.language := by
  show content = raw.reverse ++ [] ∧ _ ↔ _
  rw [List.append_nil]
  rfl

theorem cons_mem_restOfValue : octet :: text ∈ restOfValue (.more scanner) raw content ↔
    text ∈ restOfValue (scanner.step octet) (octet :: raw) content := by
  show content = raw.reverse ++ octet :: text ∧ octet :: text ∈ scanner.language ↔
    content = (octet :: raw).reverse ++ text ∧ text ∈ (scanner.step octet).language
  rw [Scanner.cons_mem_language, List.reverse_cons, List.append_assoc]
  rfl

theorem mem_restOfValue_complete_mul : text ∈ restOfValue .complete raw content * rest ↔
    content = raw.reverse ∧ text ∈ rest := by
  constructor
  · rintro ⟨-, ⟨same, rfl⟩, back, here, rfl⟩
    exact ⟨same.trans (List.append_nil _), here⟩
  · rintro ⟨same, here⟩
    exact ⟨[], ⟨same.trans (List.append_nil _).symm, rfl⟩, text, here, rfl⟩

theorem restOfValue_completeBefore : restOfValue .completeBefore raw content = 0 :=
  Set.eq_empty_of_forall_notMem fun _ missing => missing.2

theorem restOfValue_refused (refusal : Refusal) :
    restOfValue (.refused refusal) raw content = 0 :=
  Set.eq_empty_of_forall_notMem fun _ missing => missing.2

/-- One octet more of a value, or what follows the value. -/
theorem scanValue_law :
    octet :: text ∈ (Reader.mk (.value name scanner raw) members).language target ↔
      text ∈ languageOf (scanValue ⟨phase, members⟩ name scanner raw octet) target := by
  have first (content : Octets) (rest : List Member) :
      octet :: text ∈ restOfValue (.more scanner) raw content * afterMember rest ↔
        (content = raw.reverse ∧ [] ∈ scanner.language ∧ octet :: text ∈ afterMember rest) ∨
          text ∈ restOfValue (scanner.step octet) (octet :: raw) content * afterMember rest := by
    rw [cons_mem_mul fun _ => cons_mem_restOfValue, nil_mem_restOfValue, and_assoc]
  -- What follows the value does not also continue it.
  have apart (content : Octets) (rest : List Member)
      (unended : scanner.step octet ≠ .completeBefore) :
      ¬ (content = raw.reverse ∧ [] ∈ scanner.language ∧ octet :: text ∈ afterMember rest) :=
    fun ⟨_, whole, here⟩ => unended
      (Scanner.completeBefore_of_nil_mem whole (isDelimiter_of_mem_afterMember here))
  have with_content (whole : Octets) (here : List Member → Prop) :
      (∃ content rest, target = members.reverse ++ (name, content) :: rest ∧
        content = whole ∧ here rest) ↔
          ∃ rest, target = members.reverse ++ (name, whole) :: rest ∧ here rest := by
    constructor
    · rintro ⟨_, rest, same, rfl, here⟩
      exact ⟨rest, same, here⟩
    · rintro ⟨rest, same, here⟩
      exact ⟨whole, rest, same, rfl, here⟩
  simp only [mem_language_value, first, scanValue]
  cases taken : scanner.step octet with
  | more next =>
      rw [taken] at apart
      simp only [or_iff_right (apart _ _ nofun)]
      exact mem_language_value.symm
  | complete =>
      rw [taken] at apart
      simp only [or_iff_right (apart _ _ nofun), mem_restOfValue_complete_mul, with_content]
      exact mem_language_separator.symm
  | completeBefore =>
      have ends := Scanner.nil_mem_of_completeBefore taken
      simp only [restOfValue_completeBefore, ends, zero_mul, Language.notMem_zero, or_false,
        true_and, with_content]
      exact mem_language_separator.symm.trans (cons_mem_language_of_quiet rfl fun _ => separate_law)
  | refused refusal =>
      rw [taken] at apart
      simp only [or_iff_right (apart _ _ nofun), restOfValue_refused, zero_mul,
        Language.notMem_zero, and_false, exists_false]
      exact iff_of_false id (Language.notMem_zero text)

theorem cons_mem_theValue : octet :: text ∈ theValue content ↔
    isBlank octet = false ∧ text ∈ restOfValue (Scanner.start.step octet) [octet] content := by
  rw [← cons_mem_restOfValue]
  show octet :: text = content ∧ content ∈ values ↔
    isBlank octet = false ∧ content = octet :: text ∧ octet :: text ∈ blanks * (values * 1)
  rw [mul_one, cons_mem_blanks_mul]
  constructor
  · rintro ⟨rfl, here⟩
    exact ⟨Scanner.isBlank_of_cons_mem_values here, rfl, .inr here⟩
  · rintro ⟨visible, rfl, ⟨blank, -⟩ | here⟩
    · rw [visible] at blank
      cases blank
    · exact ⟨rfl, here⟩

theorem nil_notMem_theValue : [] ∉ theValue content := by
  rintro ⟨rfl, here⟩
  exact nil_notMem_values here

/-- A value whose first octet comes. -/
theorem cons_mem_theValue_mul (visible : isBlank octet = false) :
    octet :: text ∈ theValue content * rest ↔
      octet :: text ∈ restOfValue (.more .start) [] content * rest := by
  have law (text : Octets) : octet :: text ∈ theValue content ↔
      text ∈ restOfValue (Scanner.start.step octet) [octet] content :=
    cons_mem_theValue.trans (and_iff_right visible)
  have unstarted : [] ∉ restOfValue (.more .start) [] content := by
    rw [nil_mem_restOfValue, Scanner.nil_mem_language]
    simp [Scanner.start]
  rw [cons_mem_mul_of_nil_notMem (fun _ => cons_mem_restOfValue) unstarted,
    cons_mem_mul_of_nil_notMem law nil_notMem_theValue]

theorem notMem_theValue_mul (blank : isBlank octet = true) :
    octet :: text ∉ theValue content * rest := by
  have law (text : Octets) : octet :: text ∈ theValue content ↔ text ∈ (0 : Language UInt8) := by
    rw [cons_mem_theValue, blank]
    exact iff_of_false nofun (Language.notMem_zero text)
  rw [cons_mem_mul_of_nil_notMem law nil_notMem_theValue, zero_mul]
  exact Language.notMem_zero text

theorem beforeValue_law :
    octet :: text ∈ (Reader.mk (.beforeValue name) members).language target ↔
      text ∈ languageOf (step ⟨.beforeValue name, members⟩ octet) target := by
  simp only [mem_language_beforeValue, cons_mem_blanks_mul, step]
  cases blank : isBlank octet with
  | true =>
      simp only [notMem_theValue_mul blank, true_and, or_false, if_true]
      exact mem_language_beforeValue.symm
  | false =>
      simp only [cons_mem_theValue_mul blank, Bool.false_eq_true, if_false, false_and, false_or]
      rw [← scanValue_law, mem_language_value]

end

/-! ## Whole frames -/

theorem cons_mem_language : octet :: text ∈ reader.language target ↔
    text ∈ languageOf (reader.step octet) target := by
  obtain ⟨phase, members⟩ := reader
  cases phase with
  | document => exact cons_mem_language_of_quiet rfl fun _ => document_law
  | firstKey => exact cons_mem_language_of_quiet rfl fun _ => firstKey_law
  | nextKey => exact cons_mem_language_of_quiet rfl fun _ => nextKey_law
  | key decoder => exact cons_mem_language_of_quiet rfl fun _ => key_law
  | colon name => exact cons_mem_language_of_quiet rfl fun _ => colon_law
  | beforeValue name => exact beforeValue_law
  | value name scanner raw => exact scanValue_law
  | separator => exact cons_mem_language_of_quiet rfl fun _ => separate_law
  | finished => exact cons_mem_language_of_quiet rfl fun _ => finished_law
  | topLiteral _ _ | topNumber _ _ | topString _ =>
      -- What stands in the place of an object is never completed to one.
      refine cons_mem_language_of_quiet rfl fun further => ?_
      refine iff_of_false (Language.notMem_zero _) ?_
      simp only [step, scanTopNumber]
      repeat' split
      all_goals exact Language.notMem_zero text

theorem nil_notMem_afterMember : [] ∉ afterMember further := by
  cases further <;> exact nil_notMem_mul_right (nil_notMem_mul_left nil_notMem_mark)

/-- Only behind the closing bracket may the text end. -/
theorem nil_notMem_language (unfinished : phase ≠ .finished) : [] ∉ phase.language further := by
  have member (texts : Member → List Member → Language UInt8)
      (some : ∀ next rest, [] ∉ texts next rest) : [] ∉ inMember texts further := by
    cases further with
    | nil => exact Language.notMem_zero []
    | cons next rest => exact some next rest
  have named (condition : Prop) [Decidable condition] {rest : Language UInt8}
      (some : [] ∉ rest) : [] ∉ (if condition then rest else 0) := by
    split
    · exact some
    · exact Language.notMem_zero []
  cases phase with
  | document => exact nil_notMem_mul_right (nil_notMem_mul_left nil_notMem_mark)
  | topLiteral _ _ | topNumber _ _ | topString _ => exact Language.notMem_zero []
  | firstKey => exact nil_notMem_mul_right (nil_notMem_mul_left nil_notMem_mark)
  | nextKey =>
      exact member _ fun _ _ => nil_notMem_mul_right (nil_notMem_mul_left nil_notMem_mark)
  | key decoder => exact member _ fun _ _ => nil_notMem_mul_left Decoder.nil_notMem_language
  | colon name =>
      exact member _ fun _ _ => named _ (nil_notMem_mul_right nil_notMem_afterMember)
  | beforeValue name =>
      exact member _ fun _ _ => named _ (nil_notMem_mul_right (nil_notMem_mul_left
        nil_notMem_theValue))
  | value name scanner raw =>
      exact member _ fun _ _ => named _ (nil_notMem_mul_right nil_notMem_afterMember)
  | separator => exact nil_notMem_afterMember
  | finished => exact absurd rfl unfinished

theorem finish_eq_ok : reader.finish = .ok ⟨target⟩ ↔ [] ∈ reader.language target := by
  obtain ⟨phase, members⟩ := reader
  by_cases finished : phase = .finished
  · subst finished
    have empty (further : List Member) :
        [] ∈ FramePhase.finished.language further ↔ further = [] := by
      cases further with
      | nil => exact iff_of_true (Language.nil_mem_kstar _) rfl
      | cons next rest => exact iff_of_false (Language.notMem_zero []) nofun
    show Except.ok (Frame.mk members.reverse) = .ok ⟨target⟩ ↔ ∃ further, _ ∧ _
    simp only [empty, Except.ok.injEq, Frame.mk.injEq, exists_eq_right, List.append_nil, eq_comm]
  · refine iff_of_false (fun ends => ?_) fun ⟨_, _, here⟩ => nil_notMem_language finished here
    cases phase with
    | finished => exact finished rfl
    | topNumber phase spelling =>
        simp only [finish] at ends
        split at ends <;> cases ends
    | document | topLiteral _ _ | topString _ | firstKey | nextKey | key _ | colon _
    | beforeValue _ | value _ _ _ | separator => cases ends

theorem run_eq_ok {index : Nat} : reader.run index text = .ok ⟨target⟩ ↔
    text ∈ reader.language target := by
  induction text generalizing reader index with
  | nil =>
      rw [← finish_eq_ok, run]
      cases reader.finish <;> simp
  | cons octet rest ih =>
      rw [cons_mem_language, run]
      cases reader.step octet with
      | ok next => exact ih
      | error refusal => exact iff_of_false (by simp) (Language.notMem_zero rest)

end Reader

/-- A text is read as a frame where it is an object with the members of the frame. -/
theorem Frame.read_eq_ok {text : Octets} {frame : Frame} :
    Frame.read text = .ok frame ↔ text ∈ objectTexts frame.members := by
  rw [Frame.read, Reader.run_eq_ok]
  constructor
  · rintro ⟨further, same, here⟩
    exact same ▸ here
  · intro here
    exact ⟨frame.members, rfl, here⟩

end Rendezvous.Json
