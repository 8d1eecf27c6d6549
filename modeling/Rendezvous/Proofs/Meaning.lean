/-
# What a frame asks for

Exactly the objects are accepted, and what an object asks for is settled by the last of
its members with each of four keys. Nothing else in it matters: not the blanks between
its tokens, not how its keys are spelled, not the order of members with different keys
and not what other members it has.
-/

import Mathlib.Logic.Relation
import Rendezvous.Proofs.Reading
import Rendezvous.Proofs.Surrogates
import Rendezvous.Relay

open scoped Computability

namespace Rendezvous

/-! ## Accepted texts -/

namespace Request

theorem exists_parse_iff {text : Octets} :
    (∃ request, parse text = .ok request) ↔ ∃ members, text ∈ Json.objectTexts members := by
  constructor
  · rintro ⟨request, parsed⟩
    unfold parse at parsed
    cases read : Json.Frame.read text with
    | error fault =>
        rw [read] at parsed
        cases parsed
    | ok frame => exact ⟨frame.members, Json.Frame.read_eq_ok.mp read⟩
  · rintro ⟨members, derived⟩
    have read : Json.Frame.read text = .ok ⟨members⟩ := Json.Frame.read_eq_ok.mpr derived
    exact ⟨ofFrame ⟨members⟩, by rw [parse, read]; rfl⟩

end Request

/-- A text is accepted where it is an object whose keys can be decoded, whatever its
values are, and every other text is a breach of the protocol to the relay. -/
theorem accepts_objects (text : Octets) :
    ((∃ request, Request.parse text = .ok request) ↔
      ∃ members, text ∈ Json.objectTexts members) ∧
    ((∃ fault, Request.parse text = .error fault ∧ ∀ connection world,
      (Relay.message connection text world).result =
        .error (.protocol fault.cause (.of text fault.position))) ↔
      ¬ ∃ members, text ∈ Json.objectTexts members) := by
  refine ⟨Request.exists_parse_iff, ?_⟩
  rw [← Request.exists_parse_iff]
  cases parsed : Request.parse text with
  | ok request => simp
  | error fault =>
      have refused (connection : Connection) (world : World Relay) :
          (Relay.message connection text world).result =
            .error (.protocol fault.cause (.of text fault.position)) := by
        unfold Relay.message
        rw [parsed]
        rfl
      exact iff_of_true ⟨fault, rfl, refused⟩ nofun

/-! ## The last member with a key -/

namespace Json

/-- The value of the last member with a key. -/
def lastValue (members : List Member) (name : String) : Option Octets :=
  ((members.filter fun member => member.1 = Octets.ofText name).getLast?).map Prod.snd

section

variable {members before after : List Member} {member : Member} {name : String}

theorem lastValue_append : lastValue (before ++ after) name =
    (lastValue after name).or (lastValue before name) := by
  simp [lastValue, List.filter_append, List.getLast?_append, Option.map_or]

theorem lastValue_cons : lastValue (member :: after) name = (lastValue after name).or
    (if member.1 = Octets.ofText name then some member.2 else none) := by
  rw [← List.singleton_append, lastValue_append]
  by_cases same : member.1 = Octets.ofText name <;> simp [lastValue, same]

theorem Frame.get?_eq_lastValue :
    (Frame.mk members).get? (.ofText name) = lastValue members name := by
  show members.reverse.lookup (Octets.ofText name) = lastValue members name
  induction members with
  | nil => rfl
  | cons member rest ih =>
      obtain ⟨key, value⟩ := member
      rw [List.reverse_cons, List.lookup_append, ih, lastValue_cons, List.lookup_cons,
        List.lookup_nil]
      by_cases same : key = Octets.ofText name
      · simp [same]
      · have apart : (Octets.ofText name == key) = false := by simpa using Ne.symm same
        simp [same, apart]

theorem lastValue_eq_none : lastValue members name = none ↔
    ∀ member ∈ members, member.1 ≠ Octets.ofText name := by
  simp [lastValue]

/-- Behind the last member with a key there is no other with that key. -/
theorem exists_of_lastValue {raw : Octets} (last : lastValue members name = some raw) :
    ∃ before after, members = before ++ (Octets.ofText name, raw) :: after ∧
      ∀ member ∈ after, member.1 ≠ Octets.ofText name := by
  induction members with
  | nil => cases last
  | cons member rest ih =>
      rw [lastValue_cons, Option.or_eq_some_iff] at last
      rcases last with later | ⟨none, here⟩
      · obtain ⟨before, after, rfl, others⟩ := ih later
        exact ⟨member :: before, after, rfl, others⟩
      · split at here
        · next same =>
          cases here
          exact ⟨[], rest, by rw [← same]; rfl, lastValue_eq_none.mp none⟩
        · cases here

end

/-- The last member with a key is a string that says a text. -/
def Says (members : List Member) (name text : String) : Prop :=
  ∃ raw, lastValue members name = some raw ∧ raw ∈ spellings (Octets.ofText text)

theorem says_iff {members : List Member} {name text : String} : Says members name text ↔
    (lastValue members name).bind decodeString? = some (Octets.ofText text) := by
  rw [Option.bind_eq_some_iff]
  simp only [decodeString?_eq_some]
  rfl

end Json

/-! ## What is asked for -/

namespace Request

open Json

variable {members : List Member}

theorem ofFrame_of_get (asks : Says members "method" "GET") : ofFrame ⟨members⟩ =
    if (lastValue members "resource").bind decodeString? = some configurationResource then
      .getConfiguration (lastValue members "msg_id")
    else .unrecognized (.unknownResource
      ((lastValue members "resource").bind decodeString?)) := by
  obtain ⟨raw, found, decoded⟩ := Option.bind_eq_some_iff.mp (says_iff.mp asks)
  simp only [ofFrame, Frame.get?_eq_lastValue, found, decoded]
  exact if_pos rfl

theorem ofFrame_of_notify (tells : Says members "method" "NOTIFY") : ofFrame ⟨members⟩ =
    match lastValue members "data" with
    | some data => .notify data
    | none => .unrecognized .notifyWithoutData := by
  obtain ⟨raw, found, decoded⟩ := Option.bind_eq_some_iff.mp (says_iff.mp tells)
  have other : Octets.ofText "NOTIFY" ≠ getMethod := by decide
  simp only [ofFrame, Frame.get?_eq_lastValue, found, decoded, if_neg other]
  exact if_pos rfl

theorem ofFrame_of_other (noGet : ¬ Says members "method" "GET")
    (noNotify : ¬ Says members "method" "NOTIFY") :
    ∃ reason, ofFrame ⟨members⟩ = .unrecognized reason := by
  rw [says_iff] at noGet noNotify
  simp only [ofFrame, Frame.get?_eq_lastValue]
  cases found : lastValue members "method" with
  | none => exact ⟨_, rfl⟩
  | some raw =>
      rw [found] at noGet noNotify
      simp only
      cases decoded : decodeString? raw with
      | none => exact ⟨_, rfl⟩
      | some method =>
          have notGet : method ≠ getMethod := fun same => noGet (decoded.trans (same ▸ rfl))
          have notNotify : method ≠ notifyMethod := fun same =>
            noNotify (decoded.trans (same ▸ rfl))
          simp only [if_neg notGet, if_neg notNotify]
          exact ⟨_, rfl⟩

theorem not_says_both (asks : Says members "method" "GET") : ¬ Says members "method" "NOTIFY" := by
  intro tells
  have same := (says_iff.mp asks).symm.trans (says_iff.mp tells)
  exact absurd (Option.some.inj same) (by decide)

end Request

namespace Json

/-- The members ask for the configuration. -/
def AskForConfiguration (members : List Member) : Prop :=
  Says members "method" "GET" ∧ Says members "resource" "/peerconnection"

/-- The members tell the other party something. -/
def Tell (members : List Member) (data : Payload) : Prop :=
  Says members "method" "NOTIFY" ∧ lastValue members "data" = some data

/-- What members ask for. -/
inductive Asks (members : List Member) : Request → Prop
  | getConfiguration (asks : AskForConfiguration members) :
    Asks members (.getConfiguration (lastValue members "msg_id"))
  | notify {data : Payload} (tells : Tell members data) : Asks members (.notify data)
  | unrecognized {reason : Unrecognized} (asks : ¬ AskForConfiguration members)
    (tells : ∀ data, ¬ Tell members data) : Asks members (.unrecognized reason)

theorem asks_ofFrame (members : List Member) : Asks members (Request.ofFrame ⟨members⟩) := by
  by_cases asks : Says members "method" "GET"
  · have tells (data : Payload) : ¬ Tell members data := fun both =>
      Request.not_says_both asks both.1
    rw [Request.ofFrame_of_get asks]
    split
    · next resource => exact .getConfiguration ⟨asks, says_iff.mpr resource⟩
    · next resource => exact .unrecognized (fun both => resource (says_iff.mp both.2)) tells
  have noGet : ¬ AskForConfiguration members := fun both => asks both.1
  by_cases tells : Says members "method" "NOTIFY"
  · rw [Request.ofFrame_of_notify tells]
    cases found : lastValue members "data" with
    | some data => exact .notify ⟨tells, found⟩
    | none =>
        refine .unrecognized noGet fun data both => ?_
        rw [Tell, found] at both
        cases both.2
  · obtain ⟨reason, other⟩ := Request.ofFrame_of_other asks tells
    rw [other]
    exact .unrecognized noGet fun data both => tells both.1

namespace Asks

variable {members : List Member} {request : Request} (asks : Asks members request)

include asks

theorem eq_getConfiguration_iff {msgId : Option Payload} : request = .getConfiguration msgId ↔
    AskForConfiguration members ∧ msgId = lastValue members "msg_id" := by
  cases asks with
  | getConfiguration asks => simp [asks, eq_comm]
  | notify tells => exact iff_of_false nofun fun both => Request.not_says_both both.1.1 tells.1
  | unrecognized asks tells => simp [asks]

theorem eq_notify_iff {data : Payload} : request = .notify data ↔ Tell members data := by
  cases asks with
  | getConfiguration asks =>
      exact iff_of_false nofun fun tells => Request.not_says_both asks.1 tells.1
  | notify tells =>
      constructor
      · rintro ⟨⟩
        exact tells
      · intro also
        rw [Option.some.inj (tells.2.symm.trans also.2)]
  | unrecognized asks tells => simp [tells]

theorem eq_unrecognized_iff : (∃ reason, request = .unrecognized reason) ↔
    ¬ AskForConfiguration members ∧ ∀ data, ¬ Tell members data := by
  cases asks with
  | getConfiguration asks => exact iff_of_false nofun fun both => both.1 asks
  | notify tells => exact iff_of_false nofun fun both => both.2 _ tells
  | unrecognized asks tells => exact iff_of_true ⟨_, rfl⟩ ⟨asks, tells⟩

end Asks

/-! ## Where a value stands -/

/-- Members each with the comma behind it. -/
def rowBefore : List Member → Language UInt8
  | [] => 1
  | member :: rest => memberTexts member * (blanks * (mark 0x2C * rowBefore rest))

/-- An object up to the value of a member that comes after the given ones. -/
def upToValue (before : List Member) (name : Octets) : Language UInt8 :=
  blanks * (mark 0x7B * (rowBefore before *
    (blanks * (spellings name * (blanks * (mark 0x3A * blanks))))))

/-- The text of a value, which neither begins nor ends with a blank. -/
structure Trimmed (raw : Octets) : Prop where
  nonempty : raw ≠ []
  front : ∀ octet, raw.head? = some octet → among " \t\n\r" octet = false
  back : ∀ octet, raw.getLast? = some octet → among " \t\n\r" octet = false

section

variable {before after : List Member} {member : Member} {octet : UInt8} {text raw : Octets}

theorem rowTexts_append_mul : rowTexts (before ++ member :: after) * (mark 0x7D * blanks) =
    rowBefore before * (memberTexts member * afterMember after) := by
  induction before with
  | nil => exact (rowTexts_cons_mul member after).trans (one_mul _).symm
  | cons first rest ih =>
      have later : afterMember (rest ++ member :: after) =
          blanks * (mark 0x2C * (rowTexts (rest ++ member :: after) * (mark 0x7D * blanks))) := by
        cases rest <;> rfl
      rw [List.cons_append, rowTexts_cons_mul, later, ih, rowBefore]
      simp only [mul_assoc]

theorem objectTexts_append : objectTexts (before ++ member :: after) =
    upToValue before member.1 * (theValue member.2 * afterMember after) := by
  rw [objectTexts, rowTexts_append_mul, upToValue]
  simp only [memberTexts, afterName, mul_assoc]

/-- A number has no blanks in it. -/
theorem NumberPhase.language_of_isBlank (phase : NumberPhase) (blank : isBlank octet = true) :
    (phase.step octet).language = 0 := by
  simp only [isBlank, Bool.or_eq_true, decide_eq_true_eq] at blank
  rcases blank with ((rfl | rfl) | rfl) | rfl <;> cases phase <;> rfl

theorem NumberPhase.isBlank_of_mem {phase : NumberPhase} (here : text ∈ phase.language) :
    ∀ octet ∈ text, isBlank octet = false := by
  induction text generalizing phase with
  | nil => nofun
  | cons octet rest ih =>
      rw [phase.cons_mem_language] at here
      have visible : isBlank octet = false := by
        by_contra blank
        rw [phase.language_of_isBlank (Bool.of_not_eq_false blank)] at here
        exact Language.notMem_zero rest here
      refine List.forall_mem_cons.mpr ⟨visible, ?_⟩
      cases taken : phase.step octet with
      | more next =>
          rw [taken] at here
          exact ih here
      | ended | invalid =>
          rw [taken] at here
          exact absurd here (Language.notMem_zero rest)

theorem isBlank_of_mem_number (spelled : raw ∈ number) : ∀ octet ∈ raw, isBlank octet = false := by
  cases raw with
  | nil => nofun
  | cons octet rest =>
      have value : octet :: rest ∈ values := Derives.number spelled
      obtain ⟨phase, -, later⟩ := cons_mem_number.mp spelled
      exact List.forall_mem_cons.mpr
        ⟨Scanner.isBlank_of_cons_mem_values value, NumberPhase.isBlank_of_mem later⟩

/-- A value ends with an octet of its own. -/
theorem exists_last_of_mem_values (here : raw ∈ values) :
    ∃ front last, raw = front ++ [last] ∧ isBlank last = false := by
  have visible (container : Container) : isBlank container.brackets.2 = false := by
    cases container <;> rfl
  cases here with
  | literal known =>
      obtain ⟨word, known, rfl⟩ := known
      simp only [List.mem_cons, List.not_mem_nil, or_false] at known
      rcases known with rfl | rfl | rfl
      · exact ⟨[0x6E, 0x75, 0x6C], 0x6C, by decide, rfl⟩
      · exact ⟨[0x74, 0x72, 0x75], 0x65, by decide, rfl⟩
      · exact ⟨[0x66, 0x61, 0x6C, 0x73], 0x65, by decide, rfl⟩
  | number spelled =>
      have some : raw ≠ [] := by
        rintro rfl
        exact nil_notMem_number spelled
      exact ⟨raw.dropLast, raw.getLast some, (List.dropLast_append_getLast some).symm,
        isBlank_of_mem_number spelled _ (List.getLast_mem some)⟩
  | string spelled =>
      obtain ⟨body, -, rfl⟩ := mem_string_iff.mp spelled
      exact ⟨0x22 :: body, 0x22, rfl, rfl⟩
  | @empty container gap blank => exact ⟨container.brackets.1 :: gap, _, rfl, visible container⟩
  | @full container inner items =>
      exact ⟨container.brackets.1 :: inner, _, rfl, visible container⟩

theorem trimmed_of_mem_values (here : raw ∈ values) : Trimmed raw where
  nonempty := by
    rintro rfl
    exact nil_notMem_values here
  front octet first := by
    obtain ⟨rest, rfl⟩ := List.head?_eq_some_iff.mp first
    rw [among_blanks]
    exact Scanner.isBlank_of_cons_mem_values here
  back octet last := by
    obtain ⟨front, other, rfl, visible⟩ := exists_last_of_mem_values here
    rw [List.getLast?_concat] at last
    rw [among_blanks, ← Option.some.inj last]
    exact visible

end

/-! ## What does not matter -/

/-- A change of the members that matters to nobody: two neighbours with different keys
are swapped, a member with a key of no meaning is added, or a method or a resource is
spelled in another way. -/
inductive Restyled : List Member → List Member → Prop
  | swap {before after : List Member} {first second : Member} (apart : first.1 ≠ second.1) :
    Restyled (before ++ first :: second :: after) (before ++ second :: first :: after)
  | add {before after : List Member} {member : Member}
    (other : ∀ name ∈ ["method", "resource", "msg_id", "data"], member.1 ≠ Octets.ofText name) :
    Restyled (before ++ after) (before ++ member :: after)
  | respell {before after : List Member} {name : String} {raw raw' : Octets}
    (decoded : name ∈ ["method", "resource"])
    (same : ∀ text, raw ∈ spellings text ↔ raw' ∈ spellings text) :
    Restyled (before ++ (Octets.ofText name, raw) :: after)
      (before ++ (Octets.ofText name, raw') :: after)

/-- Two lists of members that ask for the same, unless it is for nothing. -/
structure AskAlike (members other : List Member) : Prop where
  decoded : ∀ name ∈ ["method", "resource"], ∀ text, Says members name text ↔ Says other name text
  kept : ∀ name ∈ ["msg_id", "data"], lastValue members name = lastValue other name

theorem askAlike_equivalence : Equivalence AskAlike where
  refl _ := ⟨fun _ _ _ => Iff.rfl, fun _ _ => rfl⟩
  symm alike :=
    ⟨fun name listed text => (alike.decoded name listed text).symm,
      fun name listed => (alike.kept name listed).symm⟩
  trans alike alike' :=
    ⟨fun name listed text =>
      (alike.decoded name listed text).trans (alike'.decoded name listed text),
      fun name listed => (alike.kept name listed).trans (alike'.kept name listed)⟩

section

variable {members other : List Member}

theorem AskAlike.of_lastValue
    (same : ∀ name ∈ ["method", "resource", "msg_id", "data"],
      lastValue members name = lastValue other name) : AskAlike members other where
  decoded name listed text := by
    have known : lastValue members name = lastValue other name :=
      same name (List.mem_append_left ["msg_id", "data"] listed)
    rw [Says, Says, known]
  kept name listed := same name (List.mem_append_right ["method", "resource"] listed)

theorem Restyled.askAlike (restyled : Restyled members other) : AskAlike members other := by
  cases restyled with
  | @swap before after first second apart =>
      apply AskAlike.of_lastValue
      intro name _
      simp only [lastValue_append, lastValue_cons]
      by_cases here : first.1 = Octets.ofText name
      · have there : second.1 ≠ Octets.ofText name := fun same => apart (here.trans same.symm)
        simp only [if_neg there, Option.or_none]
      · simp only [if_neg here, Option.or_none]
  | @add before after member other =>
      apply AskAlike.of_lastValue
      intro name listed
      simp only [lastValue_append, lastValue_cons, if_neg (other name listed), Option.or_none]
  | @respell before after name raw raw' decoded same =>
      have others (name' : String) (apart : name' ≠ name) :
          lastValue (before ++ (Octets.ofText name, raw) :: after) name' =
            lastValue (before ++ (Octets.ofText name, raw') :: after) name' := by
        have unnamed : Octets.ofText name ≠ Octets.ofText name' := fun same =>
          apart (Octets.ofText_injective same).symm
        simp only [lastValue_append, lastValue_cons, if_neg unnamed, Option.or_none]
      constructor
      · intro name' listed text
        by_cases this : name' = name
        · subst this
          simp only [Says, lastValue_append, lastValue_cons, if_true]
          cases lastValue after name' with
          | none => simp [same]
          | some later => simp
        · rw [Says, Says, others name' this]
      · intro name' listed
        apply others
        rintro rfl
        simp only [List.mem_cons, List.not_mem_nil, or_false] at decoded
        rcases decoded with rfl | rfl <;> simp at listed

theorem askAlike_of_eqvGen (restyled : Relation.EqvGen Restyled members other) :
    AskAlike members other := by
  rw [← askAlike_equivalence.eqvGen_iff]
  exact restyled.mono fun _ _ => Restyled.askAlike

theorem AskAlike.askForConfiguration_iff (alike : AskAlike members other) :
    AskForConfiguration members ↔ AskForConfiguration other :=
  and_congr (alike.decoded "method" (by simp) "GET")
    (alike.decoded "resource" (by simp) "/peerconnection")

theorem AskAlike.tell_iff (alike : AskAlike members other) {data : Payload} :
    Tell members data ↔ Tell other data := by
  rw [Tell, Tell, alike.decoded "method" (by simp), alike.kept "data" (by simp)]

/-- Members that ask for something ask for the same as members that ask alike. -/
theorem AskAlike.ofFrame_eq (alike : AskAlike members other)
    (recognized : ∀ reason, Request.ofFrame ⟨members⟩ ≠ .unrecognized reason) :
    Request.ofFrame ⟨other⟩ = Request.ofFrame ⟨members⟩ := by
  cases request : Request.ofFrame ⟨members⟩ with
  | getConfiguration msgId =>
      rw [(asks_ofFrame members).eq_getConfiguration_iff] at request
      rw [(asks_ofFrame other).eq_getConfiguration_iff, ← alike.askForConfiguration_iff,
        ← alike.kept "msg_id" (by simp)]
      exact request
  | notify data =>
      rw [(asks_ofFrame members).eq_notify_iff, alike.tell_iff] at request
      exact (asks_ofFrame other).eq_notify_iff.mpr request
  | unrecognized reason => exact absurd request (recognized reason)

end

/-! ## The meaning of a text -/

open Request (parse)

/-- A text means what its members ask for, and nothing else in it matters. -/
structure Understood (members : List Member) (text : Octets) : Prop where
  accepted : ∃ request, parse text = .ok request
  getConfiguration : ∀ msgId, parse text = .ok (.getConfiguration msgId) ↔
    AskForConfiguration members ∧ msgId = lastValue members "msg_id"
  notify : ∀ data, parse text = .ok (.notify data) ↔ Tell members data
  unrecognized : (∃ reason, parse text = .ok (.unrecognized reason)) ↔
    ¬ AskForConfiguration members ∧ ∀ data, ¬ Tell members data
  /-- The last value with a key is the piece of the text that stands behind that key. -/
  slice : ∀ name raw, lastValue members name = some raw → ∃ before after front back,
    members = before ++ (Octets.ofText name, raw) :: after ∧
    (∀ member ∈ after, member.1 ≠ Octets.ofText name) ∧ text = front ++ (raw ++ back) ∧
    front ∈ upToValue before (Octets.ofText name) ∧ raw ∈ values ∧ Trimmed raw ∧
    back ∈ afterMember after
  /-- Four last values settle everything, also why a text asks for nothing. -/
  settled : ∀ other text', text' ∈ objectTexts other →
    (∀ name ∈ ["method", "resource", "msg_id", "data"],
      lastValue other name = lastValue members name) → parse text' = parse text
  restyled : ∀ other text', text' ∈ objectTexts other → Relation.EqvGen Restyled members other →
    (∀ reason, parse text ≠ .ok (.unrecognized reason)) → parse text' = parse text

/-- A value is decoded to the text that it says; it says one unless it is no string or has
a single surrogate. -/
structure Decodes (raw : Octets) : Prop where
  text_iff : ∀ meaning, decodeString? raw = some meaning ↔ raw ∈ spellings meaning
  exists_iff : (∃ meaning, decodeString? raw = some meaning) ↔ raw ∈ string ∧ ¬ HasSingle raw

section

variable {members other : List Member} {text : Octets}

theorem parse_of_mem_objectTexts (derived : text ∈ objectTexts members) :
    parse text = .ok (Request.ofFrame ⟨members⟩) := by
  have read : Frame.read text = .ok ⟨members⟩ := Frame.read_eq_ok.mpr derived
  rw [parse, read]
  rfl

theorem parse_eq_ok_iff (derived : text ∈ objectTexts members) {request : Request} :
    parse text = .ok request ↔ Request.ofFrame ⟨members⟩ = request := by
  rw [parse_of_mem_objectTexts derived, Except.ok.injEq]

theorem exists_members_of_parse {request : Request} (parsed : parse text = .ok request) :
    ∃ members, text ∈ objectTexts members ∧ Request.ofFrame ⟨members⟩ = request := by
  obtain ⟨members, derived⟩ := Request.exists_parse_iff.mp ⟨request, parsed⟩
  exact ⟨members, derived, (parse_eq_ok_iff derived).mp parsed⟩

theorem parse_eq_getConfiguration_iff {msgId : Option Payload} :
    parse text = .ok (.getConfiguration msgId) ↔ ∃ members, text ∈ objectTexts members ∧
      AskForConfiguration members ∧ msgId = lastValue members "msg_id" := by
  constructor
  · intro parsed
    obtain ⟨members, derived, request⟩ := exists_members_of_parse parsed
    exact ⟨members, derived, (asks_ofFrame members).eq_getConfiguration_iff.mp request⟩
  · rintro ⟨members, derived, asks⟩
    exact (parse_eq_ok_iff derived).mpr ((asks_ofFrame members).eq_getConfiguration_iff.mpr asks)

theorem parse_eq_notify_iff {data : Payload} : parse text = .ok (.notify data) ↔
    ∃ members, text ∈ objectTexts members ∧ Tell members data := by
  constructor
  · intro parsed
    obtain ⟨members, derived, request⟩ := exists_members_of_parse parsed
    exact ⟨members, derived, (asks_ofFrame members).eq_notify_iff.mp request⟩
  · rintro ⟨members, derived, tells⟩
    exact (parse_eq_ok_iff derived).mpr ((asks_ofFrame members).eq_notify_iff.mpr tells)

/-- The last value with a key is the piece of the text that stands behind that key. -/
theorem exists_slice (derived : text ∈ objectTexts members) {name : String} {raw : Octets}
    (last : lastValue members name = some raw) : ∃ before after front back,
      members = before ++ (Octets.ofText name, raw) :: after ∧
      (∀ member ∈ after, member.1 ≠ Octets.ofText name) ∧ text = front ++ (raw ++ back) ∧
      front ∈ upToValue before (Octets.ofText name) ∧ raw ∈ values ∧ back ∈ afterMember after := by
  obtain ⟨before, after, rfl, others⟩ := exists_of_lastValue last
  rw [objectTexts_append] at derived
  obtain ⟨front, here, _, ⟨_, ⟨rfl, value⟩, back, there, rfl⟩, rfl⟩ := derived
  exact ⟨before, after, front, back, rfl, others, rfl, here, value, there⟩

theorem ofFrame_congr
    (same : ∀ name ∈ ["method", "resource", "msg_id", "data"],
      lastValue other name = lastValue members name) :
    Request.ofFrame ⟨other⟩ = Request.ofFrame ⟨members⟩ := by
  simp only [Request.ofFrame, Frame.get?_eq_lastValue, same "method" (by simp),
    same "resource" (by simp), same "msg_id" (by simp), same "data" (by simp)]

theorem decodes (raw : Octets) : Decodes raw where
  text_iff _ := decodeString?_eq_some
  exists_iff := by
    simp only [decodeString?_eq_some]
    exact exists_mem_spellings_iff

/-- What a text that is an object means, whatever blanks, spellings and repeated keys it
has. -/
theorem understood_of_mem_objectTexts (derived : text ∈ objectTexts members) :
    Understood members text ∧ ∀ raw, Decodes raw := by
  have asks := asks_ofFrame members
  refine ⟨?_, decodes⟩
  constructor
  case accepted => exact ⟨_, parse_of_mem_objectTexts derived⟩
  case getConfiguration =>
    intro msgId
    rw [parse_eq_ok_iff derived, asks.eq_getConfiguration_iff]
  case notify =>
    intro data
    rw [parse_eq_ok_iff derived, asks.eq_notify_iff]
  case unrecognized =>
    simp only [parse_eq_ok_iff derived]
    exact asks.eq_unrecognized_iff
  case slice =>
    intro name raw last
    obtain ⟨before, after, front, back, split, others, whole, here, value, there⟩ :=
      exists_slice derived last
    exact ⟨before, after, front, back, split, others, whole, here, value,
      trimmed_of_mem_values value, there⟩
  case settled =>
    intro other text' derived' same
    rw [parse_of_mem_objectTexts derived, parse_of_mem_objectTexts derived', ofFrame_congr same]
  case restyled =>
    intro other text' derived' restyled recognized
    have alike := askAlike_of_eqvGen restyled
    rw [parse_of_mem_objectTexts derived] at recognized ⊢
    rw [parse_of_mem_objectTexts derived',
      alike.ofFrame_eq fun reason same => recognized reason (congrArg Except.ok same)]

end

/-- A request whose later method counts, with keys and strings that are spelled with
escapes and a token between blanks. -/
def respelled : Octets :=
  .ofText ("\x7b\"data\":[1] ,\"\\u006dethod\":\"NOTIFY\", \"method\":\"GE\\u0054\"" ++
    ",\"msg_id\": null ,\"resource\":\"\\/peerconnection\"\x7d")

/-- The members of that request. -/
def respelledMembers : List Member :=
  [("data", "[1]"), ("method", "\"NOTIFY\""), ("method", "\"GE\\u0054\""), ("msg_id", "null"),
    ("resource", "\"\\/peerconnection\"")].map fun (name, value) =>
      (Octets.ofText name, Octets.ofText value)

theorem parse_respelled : respelled ∈ objectTexts respelledMembers ∧
    parse respelled = .ok (.getConfiguration (some (.ofText "null"))) := by
  have derived : respelled ∈ objectTexts respelledMembers :=
    Frame.read_eq_ok.mp (show Frame.read respelled = .ok ⟨respelledMembers⟩ by rfl)
  have method : Says respelledMembers "method" "GET" := says_iff.mpr (by decide)
  have resource : Says respelledMembers "resource" "/peerconnection" := says_iff.mpr (by decide)
  have token : some (.ofText "null") = lastValue respelledMembers "msg_id" := by decide
  exact ⟨derived, ((understood_of_mem_objectTexts derived).1.getConfiguration _).mpr
    ⟨⟨method, resource⟩, token⟩⟩

end Json

end Rendezvous
