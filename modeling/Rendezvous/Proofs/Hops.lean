/-
# From relay to relay

What is written is an object that says what was written: strings are spellings of their
text, and values go in as they are. A notice therefore reaches a second relay as the
first has got it, and no number of relays on the way changes its data.
-/

import Rendezvous.Proofs.Effects
import Rendezvous.Proofs.Meaning

open scoped Computability

namespace Rendezvous

namespace Json

/-! ## What is written is in the grammar -/

theorem Spells.append {front meant back meaning : Octets} (first : Spells front meant)
    (rest : Spells back meaning) : Spells (front ++ back) (meant ++ meaning) := by
  induction first with
  | nil => exact rest
  | cons stands _ ih =>
      rw [List.append_assoc, List.append_assoc]
      exact .cons stands ih

theorem spells_escapeOctet (octet : UInt8) : Spells (escapeOctet octet) [octet] := by
  have decoded : decodeString? (0x22 :: (escapeOctet octet ++ [0x22])) = some [octet] := by
    revert octet
    apply forall_octet
    decide +kernel
  obtain ⟨spelling, spells, same⟩ := decodeString?_eq_some.mp decoded
  rwa [List.append_cancel_right (List.cons.inj same).2]

theorem writeString_mem_spellings (text : Octets) : writeString text ∈ spellings text := by
  have spells : Spells (text.flatMap escapeOctet) text := by
    induction text with
    | nil => exact .nil
    | cons octet rest ih => exact (spells_escapeOctet octet).append ih
  exact ⟨_, spells, rfl⟩

theorem writeString_mem_values (text : Octets) : writeString text ∈ values :=
  Derives.string (exists_mem_spellings_iff.mp ⟨text, writeString_mem_spellings text⟩).1

section

variable {text : Octets} {rest : Language UInt8}

/-- No blanks are needed anywhere. -/
theorem mem_blanks_mul (here : text ∈ rest) : text ∈ blanks * rest :=
  ⟨[], Language.nil_mem_kstar _, text, here, rfl⟩

theorem writeMember_mem_memberTexts {name : String} {value : Octets} (known : value ∈ values) :
    writeMember name value ∈ memberTexts (Octets.ofText name, value) := by
  apply mem_blanks_mul
  refine Language.append_mem_mul (writeString_mem_spellings _) (mem_blanks_mul ?_)
  exact cons_mem_mark_mul.mpr ⟨rfl, mem_blanks_mul ⟨rfl, known⟩⟩

theorem separated_mem_rowTexts {members : List (String × Octets)}
    (known : ∀ member ∈ members, member.2 ∈ values) :
    separated (members.map fun (name, value) => writeMember name value) ∈
      rowTexts (members.map fun (name, value) => (Octets.ofText name, value)) := by
  induction members with
  | nil => exact Language.nil_mem_kstar _
  | cons member rest ih =>
      obtain ⟨here, later⟩ := List.forall_mem_cons.mp known
      have first : writeMember member.1 member.2 ∈ memberTexts (Octets.ofText member.1, member.2) :=
        writeMember_mem_memberTexts here
      cases rest with
      | nil => exact ⟨_, first, [], Language.nil_mem_kstar _, List.append_nil _⟩
      | cons next rest =>
          apply Language.append_mem_mul first
          exact mem_blanks_mul (cons_mem_mark_mul.mpr ⟨rfl, ih later⟩)

/-- An object that is written is read with its members. -/
theorem writeObject_mem_objectTexts {members : List (String × Octets)}
    (known : ∀ member ∈ members, member.2 ∈ values) :
    writeObject members ∈
      objectTexts (members.map fun (name, value) => (Octets.ofText name, value)) := by
  apply mem_blanks_mul
  refine cons_mem_mark_mul.mpr ⟨rfl, ?_⟩
  apply Language.append_mem_mul (separated_mem_rowTexts known)
  exact cons_mem_mark_mul.mpr ⟨rfl, Language.nil_mem_kstar _⟩

end

/-! ## What is written can be a value again -/

theorem derives_separated {container : Container} {element : Octets} {rest : List Octets}
    (items : ∀ item ∈ element :: rest, Derives (.item container) item) :
    Derives (.items container) (separated (element :: rest)) := by
  induction rest generalizing element with
  | nil => exact .last (items element List.mem_cons_self)
  | cons next rest ih =>
      obtain ⟨first, later⟩ := List.forall_mem_cons.mp items
      exact .more first (ih later)

/-- Items between brackets are a value. -/
theorem bracketed_mem_values (container : Container) {elements : List Octets}
    (items : ∀ item ∈ elements, Derives (.item container) item) :
    container.brackets.1 :: (separated elements ++ [container.brackets.2]) ∈ values := by
  cases elements with
  | nil => exact Derives.empty (Language.nil_mem_kstar _)
  | cons element rest => exact Derives.full (derives_separated items)

theorem writeList_mem_values {elements : List Octets}
    (known : ∀ element ∈ elements, element ∈ values) : writeList elements ∈ values := by
  refine bracketed_mem_values .list fun element listed => ?_
  have item := Derives.element (Language.nil_mem_kstar _) (known element listed)
    (Language.nil_mem_kstar _)
  rwa [List.nil_append, List.append_nil] at item

theorem writeObject_mem_values {members : List (String × Octets)}
    (known : ∀ member ∈ members, member.2 ∈ values) : writeObject members ∈ values := by
  refine bracketed_mem_values .object fun item listed => ?_
  obtain ⟨member, inside, rfl⟩ := List.mem_map.mp listed
  have name : writeString (.ofText member.1) ∈ string :=
    (exists_mem_spellings_iff.mp ⟨_, writeString_mem_spellings _⟩).1
  have value := Derives.element (Language.nil_mem_kstar _) (known member inside)
    (Language.nil_mem_kstar _)
  rw [List.nil_append, List.append_nil] at value
  exact Derives.member (Language.nil_mem_kstar _) name (Language.nil_mem_kstar _) value

end Json

/-! ## Notices -/

namespace Request

open Json

variable {text : Octets} {data : Payload}

/-- The data of a notice is a value. -/
theorem mem_values_of_notify (heard : parse text = .ok (.notify data)) : data ∈ values := by
  obtain ⟨members, derived⟩ := exists_parse_iff.mp ⟨_, heard⟩
  rw [parse_eq_ok_iff derived, (asks_ofFrame members).eq_notify_iff] at heard
  obtain ⟨before, after, front, back, -, -, -, -, value, -⟩ := exists_slice derived heard.2
  exact value

/-- A notice that is passed on is read as a notice with the same data. -/
theorem parse_toText_notify (value : data ∈ values) :
    parse (Outgoing.notify data).toText = .ok (.notify data) := by
  have known : ∀ member ∈ [("method", writeString (.ofText "NOTIFY")), ("data", data)],
      member.2 ∈ values := by
    simp [writeString_mem_values, value]
  have derived := writeObject_mem_objectTexts known
  have apart : Octets.ofText "data" ≠ Octets.ofText "method" := by decide
  refine (parse_eq_ok_iff derived).mpr ((asks_ofFrame _).eq_notify_iff.mpr ⟨?_, ?_⟩)
  · exact ⟨_, by simp [lastValue, apart], writeString_mem_spellings _⟩
  · simp [lastValue, apart.symm]

end Request

/-- What the other party gets of a text, if anything. -/
def passedOn (text : Octets) : Option Octets :=
  match Request.parse text with
  | .ok (.notify data) => some (Outgoing.notify data).toText
  | _ => none

/-- What is left of a text after a number of relays. -/
def passedThrough : Nat → Octets → Option Octets
  | 0, text => some text
  | hops + 1, text => (passedOn text).bind (passedThrough hops)

theorem passedOn_eq_some {text passed : Octets} : passedOn text = some passed ↔
    ∃ data, Request.parse text = .ok (.notify data) ∧ (Outgoing.notify data).toText = passed := by
  unfold passedOn
  split
  · next data heard => simp [heard]
  · next others =>
    refine iff_of_false (by simp) ?_
    rintro ⟨data, heard, -⟩
    exact others data heard

/-- This is what a relay puts on the wire of the other member, if somebody receives it. -/
theorem texts_of_passedOn {world : World Relay} {connection peer : Connection}
    {text passed : Octets} (sound : world.core.poisoned = false)
    (passes : passedOn text = some passed)
    (unmarked : (world.wire connection.id).closing = false)
    (other : (world.session connection.session).otherMember connection.id = some peer)
    (attended : (world.wire peer.id).attended = true) :
    ((Relay.hooks.answer (.message connection text) world).world.wire peer.id).outbox.map
      Outgoing.toText = (world.wire peer.id).outbox.map Outgoing.toText ++ [passed] := by
  obtain ⟨data, heard, rfl⟩ := passedOn_eq_some.mp passes
  have shown := Relay.message_of_otherMember connection sound heard unmarked other
  rw [shown.wire, Function.update_self, Wire.offered_of_attended attended]
  exact List.map_append

theorem passedOn_of_notify {text : Octets} {data : Payload}
    (heard : Request.parse text = .ok (.notify data)) :
    passedOn text = some (Outgoing.notify data).toText :=
  passedOn_eq_some.mpr ⟨data, heard, rfl⟩

/-- After the first relay nothing changes any more. -/
theorem passedThrough_of_notify {text : Octets} {data : Payload}
    (heard : Request.parse text = .ok (.notify data)) (hops : Nat) :
    passedThrough (hops + 1) text = some (Outgoing.notify data).toText := by
  induction hops generalizing text with
  | zero => rw [passedThrough, passedOn_of_notify heard]; rfl
  | succ hops ih =>
      rw [passedThrough, passedOn_of_notify heard]
      exact ih (Request.parse_toText_notify (Request.mem_values_of_notify heard))

/-- Every value reaches the next relay as it is, and a notice keeps its data through any
number of relays, of which only the first may change the rest of its text. -/
theorem notices_survive_relays :
    (∀ data ∈ Json.values, Request.parse (Outgoing.notify data).toText = .ok (.notify data)) ∧
    (∀ text data, Request.parse text = .ok (.notify data) →
      Request.parse (Outgoing.notify data).toText = .ok (.notify data) ∧
      ∀ hops, passedThrough (hops + 1) text = some (Outgoing.notify data).toText) := by
  refine ⟨fun data value => Request.parse_toText_notify value, fun text data heard => ⟨?_, ?_⟩⟩
  · exact Request.parse_toText_notify (Request.mem_values_of_notify heard)
  · exact passedThrough_of_notify heard

/-- A value that could not be decoded, with a number beyond every double. -/
def undecodable : Payload := .ofText "[1e999, \"\\ud800\"]"

theorem undecodable_survives : undecodable ∈ Json.values ∧
    Request.parse (Outgoing.notify undecodable).toText = .ok (.notify undecodable) ∧
    passedThrough 3
        (.ofText "\x7b\"data\": [1e999, \"\\ud800\"] ,\"method\":\"\\u004eOTIFY\"\x7d") =
      some (Outgoing.notify undecodable).toText := by
  have heard : Request.parse
      (.ofText "\x7b\"data\": [1e999, \"\\ud800\"] ,\"method\":\"\\u004eOTIFY\"\x7d") =
        .ok (.notify undecodable) := by rfl
  have value := Request.mem_values_of_notify heard
  exact ⟨value, notices_survive_relays.1 undecodable value,
    (notices_survive_relays.2 _ undecodable heard).2 2⟩

end Rendezvous
