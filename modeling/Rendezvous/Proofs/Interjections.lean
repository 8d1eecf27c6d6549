/-
# Interjections

Between the incidents of a run, texts may come in that are no notices: requests for the
configuration, objects that ask for nothing and texts that are no objects. A weave is such a
run with its interjections. Everything of the run comes to the same without them; what
they leave is one answer for each request, on the wire of the one who has asked and at
the place where the request was made.

Nothing is assumed of the order of calls, nor of who interjects: a connection that was
never opened, one that is being hung up or one that has ended does as little harm as any
other.
-/

import Rendezvous.Proofs.Footprint
import Rendezvous.Proofs.Hops
import Rendezvous.Proofs.Incidents

namespace Rendezvous

/-! ## Requests and their answers -/

/-- The token of a request for the configuration; the outer option tells whether a text
is such a request. -/
def Request.token? (text : Octets) : Option (Option Payload) :=
  match parse text with
  | .ok (.getConfiguration msgId) => some msgId
  | .ok (.notify _) | .ok (.unrecognized _) | .error _ => none

/-- The text of the result that an answer carries. -/
def PeerConfiguration.result (configuration : PeerConfiguration) : Payload :=
  Json.writeObject [("configuration", configuration.toJson)]

namespace Outgoing

/-- Whether a message is an answer to a request for the configuration. -/
def isReply : Outgoing → Bool
  | .configuration _ _ => true
  | .notify _ | .text _ => false

/-- The text of a message is an object with this result and with this token, if any. -/
def Answers (message : Outgoing) (result : Payload) (token : Option Payload) : Prop :=
  ∃ members, message.toText ∈ Json.objectTexts members ∧
    Json.lastValue members "result" = some result ∧ Json.lastValue members "msg_id" = token

end Outgoing

section

open Json

theorem Request.token?_eq_some_iff {text : Octets} {token : Option Payload} :
    token? text = some token ↔ ∃ members, text ∈ objectTexts members ∧
      AskForConfiguration members ∧ token = lastValue members "msg_id" := by
  rw [← parse_eq_getConfiguration_iff, token?]
  split <;> simp_all

theorem PeerConfiguration.toJson_mem_values (configuration : PeerConfiguration) :
    configuration.toJson ∈ values := by
  apply writeObject_mem_values
  refine List.forall_mem_singleton.mpr (writeList_mem_values fun element listed => ?_)
  obtain ⟨url, -, rfl⟩ := List.mem_map.mp listed
  exact writeObject_mem_values (List.forall_mem_singleton.mpr (writeString_mem_values _))

theorem PeerConfiguration.result_mem_values (configuration : PeerConfiguration) :
    configuration.result ∈ values :=
  writeObject_mem_values (List.forall_mem_singleton.mpr configuration.toJson_mem_values)

/-- An answer is read with the token under which it was asked for. -/
theorem Outgoing.answers_of_token? {text : Octets} {token : Option Payload}
    (asked : Request.token? text = some token) (configuration : PeerConfiguration) :
    (Outgoing.configuration configuration token).Answers configuration.result token := by
  obtain ⟨heard, derived, -, rfl⟩ := Request.token?_eq_some_iff.mp asked
  have success := writeString_mem_values (.ofText "success")
  have result := configuration.result_mem_values
  have apart : Octets.ofText "code" ≠ Octets.ofText "result" ∧
      Octets.ofText "code" ≠ Octets.ofText "msg_id" ∧
      Octets.ofText "result" ≠ Octets.ofText "msg_id" := by decide
  cases token : lastValue heard "msg_id" with
  | none =>
      have known : ∀ member ∈ [("code", writeString (.ofText "success")),
          ("result", configuration.result)], member.2 ∈ values := by
        simp [success, result]
      exact ⟨_, writeObject_mem_objectTexts known,
        by simp [lastValue, apart, PeerConfiguration.result], by simp [lastValue, apart]⟩
  | some raw =>
      obtain ⟨-, -, -, -, -, -, -, -, value, -⟩ := exists_slice derived token
      have known : ∀ member ∈ [("code", writeString (.ofText "success")),
          ("result", configuration.result), ("msg_id", raw)], member.2 ∈ values := by
        simp [success, result, value]
      exact ⟨_, writeObject_mem_objectTexts known, by simp [lastValue, apart, apart.2.2.symm,
        PeerConfiguration.result], by simp [lastValue, apart]⟩

end

/-! ## What is put on wires -/

namespace World

variable {α : Type}

/-- What comes of the incidents of a run, one after the other. -/
def along (comes : World Relay → Incident → List α) (world : World Relay) :
    List Incident → List α
  | [] => []
  | incident :: rest => comes world incident ++ (world.incur incident).along comes rest

theorem along_append (comes : World Relay → Incident → List α) (world : World Relay)
    (first second : List Incident) : world.along comes (first ++ second) =
      world.along comes first ++ (world.incurAll first).along comes second := by
  induction first generalizing world with
  | nil => rfl
  | cons incident rest ih =>
      rw [List.cons_append, along, along, ih, List.append_assoc]
      rfl

theorem along_snoc (comes : World Relay → Incident → List α) (world : World Relay)
    (past : List Incident) (incident : Incident) : world.along comes (past ++ [incident]) =
      world.along comes past ++ comes (world.incurAll past) incident := by
  rw [along_append, along, along, List.append_nil]

/-- The messages that an incident puts on a wire. -/
def put (id : ConnectionId) (world : World Relay) : Incident → List Outgoing
  | .call call => ((world.after call).wire id).outbox.drop (world.wire id).outbox.length
  | .collected _ | .abandoned _ => []

/-- The token of the request that comes in from a connection with somebody at its wire. -/
def asked (id : ConnectionId) (world : World Relay) : Incident → List (Option Payload)
  | .call (.message connection text) =>
    if connection.id = id ∧ (world.wire id).attended then (Request.token? text).toList else []
  | .call _ | .collected _ | .abandoned _ => []

variable {world : World Relay}

theorem put_call (sound : world.core.poisoned = false) (call : HookCall) (id : ConnectionId) :
    world.put id (.call call) =
      if (world.wire id).attended then (world.effect call).mail id else [] := by
  rw [put, outbox_after sound, List.drop_left]

theorem mail_of_message (connection : Connection) {text : Octets}
    (silent : ∀ data, Request.parse text ≠ .ok (.notify data)) (id : ConnectionId) :
    (world.effect (.message connection text)).mail id =
      if connection.id = id then
        (Request.token? text).toList.map (Outgoing.configuration world.core.configuration)
      else [] := by
  cases parsed : Request.parse text with
  | error fault =>
      rw [effect_of_fault connection parsed, Request.token?, parsed]
      exact (ite_self _).symm
  | ok request =>
      cases request with
      | getConfiguration msgId =>
          rw [effect_of_getConfiguration connection parsed, Request.token?, parsed]
          rfl
      | unrecognized reason =>
          rw [effect_of_unrecognized connection parsed, Request.token?, parsed]
          exact (ite_self _).symm
      | notify data => exact absurd parsed (silent data)

/-- What is put on a wire are notices, unless it answers a request. -/
theorem exists_mail_eq_map_notify (world : World Relay) (call : HookCall) (id : ConnectionId)
    (unasked : ∀ connection text, call = .message connection text → Request.token? text = none) :
    ∃ data : List Payload, (world.effect call).mail id = data.map Outgoing.notify := by
  have offered (result : Except SignalingError Unit) (stored : Option Session)
      (target : ConnectionId) (data : List Payload) : ∃ data' : List Payload,
        (Effect.mk result stored (some (target, data.map .notify)) none).mail id =
          data'.map Outgoing.notify := by
    refine ⟨if target = id then data else [], ?_⟩
    rw [apply_ite (List.map Outgoing.notify)]
    rfl
  have comes := world.comes_effect call
  generalize world.effect call = effect at comes ⊢
  cases comes with
  | idle | kept parsed | closed => exact ⟨[], rfl⟩
  | welcomed room => exact offered _ _ _ _
  | @passed connection peer text data parsed found => exact offered _ _ _ [data]
  | @answered connection text msgId result parsed =>
      have token := unasked connection text rfl
      rw [Request.token?, parsed] at token
      cases token

theorem filter_isReply_map_notify (data : List Payload) :
    (data.map Outgoing.notify).filter Outgoing.isReply = [] := by
  rw [List.filter_eq_nil_iff]
  intro message listed
  obtain ⟨payload, -, rfl⟩ := List.mem_map.mp listed
  nofun

/-- The answers that an incident puts on a wire are those to the requests made there. -/
theorem filter_isReply_put (sound : world.core.poisoned = false) (id : ConnectionId)
    (incident : Incident) : (world.put id incident).filter Outgoing.isReply =
      (world.asked id incident).map (.configuration world.core.configuration) := by
  cases incident with
  | collected other | abandoned other => rfl
  | call call =>
      rw [put_call sound]
      by_cases request : ∃ connection text token,
          call = .message connection text ∧ Request.token? text = some token
      · obtain ⟨connection, text, token, rfl, found⟩ := request
        have silent (data : Payload) : Request.parse text ≠ .ok (.notify data) := by
          intro parsed
          rw [Request.token?, parsed] at found
          cases found
        rw [mail_of_message connection silent, asked, found]
        by_cases here : connection.id = id <;> by_cases attended : (world.wire id).attended <;>
          simp [here, attended, Outgoing.isReply]
      · have unasked (connection : Connection) (text : Octets)
            (made : call = .message connection text) : Request.token? text = none := by
          rw [Option.eq_none_iff_forall_ne_some]
          exact fun token found => request ⟨connection, text, token, made, found⟩
        have nothing : world.asked id (.call call) = [] := by
          cases call with
          | message connection text =>
              rw [asked, unasked connection text rfl]
              exact ite_self _
          | handshake session => rfl
          | opened connection | closed connection => rfl
        obtain ⟨data, notices⟩ := exists_mail_eq_map_notify world call id unasked
        rw [nothing, notices]
        split
        · exact filter_isReply_map_notify data
        · rfl

end World

/-! ## Weaves -/

/-- A text that is no notice: it asks for the configuration, asks for nothing, or is no
object. -/
inductive Interjection (text : Octets) : Prop
  | asks {members : List Json.Member} (derived : text ∈ Json.objectTexts members)
    (asks : Json.AskForConfiguration members)
  | unrecognized {members : List Json.Member} (derived : text ∈ Json.objectTexts members)
    (asks : ¬ Json.AskForConfiguration members) (tells : ∀ data, ¬ Json.Tell members data)
  | noObject (none : ¬ ∃ members, text ∈ Json.objectTexts members)

theorem interjection_iff {text : Octets} : Interjection text ↔ Request.notice? text = none := by
  rw [Option.eq_none_iff_forall_ne_some]
  constructor
  · rintro (⟨derived, asks⟩ | ⟨derived, asks, tells⟩ | none) data notice
    all_goals rw [Request.notice?_eq_some_iff] at notice
    · rw [Json.parse_eq_ok_iff derived, (Json.asks_ofFrame _).eq_notify_iff] at notice
      exact Request.not_says_both asks.1 notice.1
    · rw [Json.parse_eq_ok_iff derived, (Json.asks_ofFrame _).eq_notify_iff] at notice
      exact tells data notice
    · exact none (Request.exists_parse_iff.mp ⟨_, notice⟩)
  · intro silent
    by_cases object : ∃ members, text ∈ Json.objectTexts members
    · obtain ⟨members, derived⟩ := object
      by_cases asks : Json.AskForConfiguration members
      · exact .asks derived asks
      · refine .unrecognized derived asks fun data tells => silent data ?_
        rw [Request.notice?_eq_some_iff, Json.parse_eq_notify_iff]
        exact ⟨members, derived, tells⟩
    · exact .noObject object

instance decidableInterjection (text : Octets) : Decidable (Interjection text) :=
  decidable_of_iff _ interjection_iff.symm

theorem Interjection.parse_ne_notify {text : Octets} (harmless : Interjection text)
    (data : Payload) : Request.parse text ≠ .ok (.notify data) := by
  intro parsed
  have notice := Request.notice?_eq_some_iff.mpr parsed
  rw [interjection_iff.mp harmless] at notice
  cases notice

/-- A step of a run with interjections: an incident of the run, or a text in between. -/
inductive Stitch
  | own (incident : Incident)
  | extra (connection : Connection) (text : Octets)
  deriving DecidableEq, Repr

/-- A run with its interjections. -/
abbrev Weave := List Stitch

/-- What happens in a step. -/
def Stitch.incident : Stitch → Incident
  | .own incident => incident
  | .extra connection text => .call (.message connection text)

/-- What happens in a step of the run itself. -/
def Stitch.own? : Stitch → Option Incident
  | .own incident => some incident
  | .extra _ _ => none

/-- What is interjected is no notice. -/
def Stitch.Harmless : Stitch → Prop
  | .own _ => True
  | .extra _ text => Interjection text

instance decidableHarmless : DecidablePred Stitch.Harmless
  | .own _ => inferInstanceAs (Decidable True)
  | .extra _ text => inferInstanceAs (Decidable (Interjection text))

namespace Weave

/-- The run with its interjections. -/
def whole (weave : Weave) : List Incident := weave.map Stitch.incident

/-- The run without them. -/
def bare (weave : Weave) : List Incident := weave.filterMap Stitch.own?

/-- Whether a connection interjects something. -/
def Interjects (weave : Weave) (id : ConnectionId) : Prop :=
  ∃ connection text, .extra connection text ∈ weave ∧ connection.id = id

theorem whole_snoc (past : Weave) (stitch : Stitch) :
    whole (past ++ [stitch]) = whole past ++ [stitch.incident] :=
  List.map_append

theorem bare_snoc_own (past : Weave) (incident : Incident) :
    bare (past ++ [.own incident]) = bare past ++ [incident] :=
  List.filterMap_append

theorem bare_snoc_extra (past : Weave) (connection : Connection) (text : Octets) :
    bare (past ++ [.extra connection text]) = bare past := by
  rw [bare, List.filterMap_append]
  exact List.append_nil _

end Weave

/-- What a run with interjections is to put on a wire, told from the run without them: what
each of its incidents puts there, and between these one answer for each request that the
connection interjects while somebody is at its wire. -/
def World.woven (id : ConnectionId) (world : World Relay) : Weave → List Outgoing
  | [] => []
  | .own incident :: rest => world.put id incident ++ (world.incur incident).woven id rest
  | .extra connection text :: rest =>
    (world.asked id (.call (.message connection text))).map
      (.configuration world.core.configuration) ++ world.woven id rest

namespace World

variable {one other : World Relay}

theorem woven_append (id : ConnectionId) (world : World Relay) (first second : Weave) :
    world.woven id (first ++ second) =
      world.woven id first ++ (world.incurAll first.bare).woven id second := by
  induction first generalizing world with
  | nil => rfl
  | cons stitch rest ih =>
      cases stitch with
      | own incident =>
          rw [List.cons_append, woven, woven, ih, List.append_assoc]
          rfl
      | extra connection text =>
          rw [List.cons_append, woven, woven, ih, List.append_assoc]
          rfl

/-- Worlds in which every call comes to the same. -/
abbrev TwinsForAll (one other : World Relay) : Prop := Twins (fun _ => True) one other

/-- Twins stay twins when the same happens in both. -/
theorem Twins.incur {among : ConnectionId → Prop} (twins : Twins among one other)
    (incident : Incident) : Twins among (one.incur incident) (other.incur incident) := by
  cases incident with
  | call call => exact twins.after call
  | collected id =>
      refine ⟨twins.configuration, twins.sound, twins.sound', twins.sessions, ?_, ?_⟩
      · intro another
        rw [wire_collected, wire_collected]
        split
        · exact twins.closing id
        · exact twins.closing another
      · intro another inside
        rw [wire_collected, wire_collected]
        split
        · next same =>
          rw [same] at inside
          exact twins.attended id inside
        · exact twins.attended another inside
  | abandoned id =>
      refine ⟨twins.configuration, twins.sound, twins.sound', twins.sessions, ?_, ?_⟩
      · intro another
        rw [wire_abandoned, wire_abandoned]
        split
        · exact twins.closing id
        · exact twins.closing another
      · intro another inside
        rw [wire_abandoned, wire_abandoned]
        split
        · rfl
        · exact twins.attended another inside

/-- What is on a wire is the same after an incident if it was so before. -/
theorem Twins.wire_incur {among : ConnectionId → Prop} (twins : Twins among one other)
    {id : ConnectionId} (same : one.wire id = other.wire id) (incident : Incident) :
    (one.incur incident).wire id = (other.incur incident).wire id := by
  cases incident with
  | call call => exact twins.wire_after same call
  | collected another =>
      rw [wire_collected, wire_collected]
      split
      · next here => rw [← here, same]
      · exact same
  | abandoned another =>
      rw [wire_abandoned, wire_abandoned]
      split
      · next here => rw [← here, same]
      · exact same

/-- An incident puts the same on a wire in both of two twins. -/
theorem Twins.put_eq (twins : TwinsForAll one other) (id : ConnectionId) (incident : Incident) :
    one.put id incident = other.put id incident := by
  cases incident with
  | collected _ | abandoned _ => rfl
  | call call =>
      rw [put_call twins.sound, put_call twins.sound', twins.attended id trivial, twins.mail_eq]

/-- Somebody asks in both of two twins or in none of them. -/
theorem Twins.asked_eq (twins : TwinsForAll one other) (id : ConnectionId)
    (incident : Incident) : one.asked id incident = other.asked id incident := by
  unfold asked
  rw [twins.attended id trivial]

section

variable {world : World Relay} (connection : Connection) {text : Octets}
  (harmless : Interjection text)

include harmless

/-- An interjection stores nothing and hangs nobody up. -/
theorem exists_effect_of_interjection (world : World Relay) : ∃ result offer?,
    world.effect (.message connection text) =
      ⟨result, world.sessions connection.session, offer?, none⟩ := by
  have comes := world.comes_effect (.message connection text)
  generalize world.effect (.message connection text) = effect at comes ⊢
  cases comes with
  | idle | answered parsed => exact ⟨_, _, rfl⟩
  | passed parsed found => exact absurd parsed (harmless.parse_ne_notify _)
  | kept parsed => exact absurd parsed (harmless.parse_ne_notify _)

theorem hungUp?_of_interjection :
    (world.effect (.message connection text)).hungUp? = none := by
  obtain ⟨result, offer?, same⟩ : ∃ result offer?, world.effect (.message connection text) =
    ⟨result, world.sessions connection.session, offer?, none⟩ :=
      exists_effect_of_interjection connection harmless world
  rw [same]

/-- An interjection is told from what it leaves on wires alone. -/
theorem Twins.interjected (twins : TwinsForAll one other) :
    TwinsForAll (one.after (.message connection text)) other := by
  obtain ⟨result, offer?, same⟩ := exists_effect_of_interjection connection harmless one
  exact twins.after_left (by rw [same]; rfl) (by rw [same])

theorem put_of_interjection (sound : world.core.poisoned = false) (id : ConnectionId) :
    world.put id (.call (.message connection text)) =
      (world.asked id (.call (.message connection text))).map
        (.configuration world.core.configuration) := by
  rw [put_call sound, mail_of_message connection harmless.parse_ne_notify, asked]
  by_cases here : connection.id = id <;> by_cases attended : (world.wire id).attended <;>
    simp [here, attended]

/-- An interjection leaves the wires of all others alone. -/
theorem wire_of_interjection (sound : world.core.poisoned = false) {id : ConnectionId}
    (other : connection.id ≠ id) :
    (world.after (.message connection text)).wire id = world.wire id := by
  rw [wire_after sound, Effect.wire, hungUp?_of_interjection connection harmless,
    mail_of_message connection harmless.parse_ne_notify, if_neg other, Wire.offered_nil]
  exact if_neg (Option.some_ne_none id).symm

end

end World

/-! ## Weaves and their runs -/

namespace Weave

/-- Nothing that is interjected is a notice. -/
abbrev Harmless (weave : Weave) : Prop := ∀ stitch ∈ weave, stitch.Harmless

variable {past : Weave} {stitch : Stitch} {id : ConnectionId}

theorem Harmless.front (harmless : Harmless (past ++ [stitch])) : past.Harmless :=
  fun earlier listed => harmless earlier (List.mem_append_left [stitch] listed)

theorem Harmless.last (harmless : Harmless (past ++ [stitch])) : stitch.Harmless :=
  harmless stitch (List.mem_append_right past List.mem_cons_self)

/-- What is no call happens in the run itself. -/
theorem mem_bare_of_mem_whole {weave : Weave} {incident : Incident}
    (noCall : ∀ call, incident ≠ .call call) (listed : incident ∈ weave.whole) :
    incident ∈ weave.bare := by
  obtain ⟨stitch, inside, rfl⟩ := List.mem_map.mp listed
  cases stitch with
  | own incident => exact List.mem_filterMap.mpr ⟨_, inside, rfl⟩
  | extra connection text => exact absurd rfl (noCall _)

theorem interjects_snoc_iff : Interjects (past ++ [stitch]) id ↔ past.Interjects id ∨
    ∃ connection text, stitch = .extra connection text ∧ connection.id = id := by
  simp only [Interjects, List.mem_append, List.mem_singleton, or_and_right, exists_or, eq_comm]

end Weave

namespace World

section

variable (configuration : PeerConfiguration) {weave : Weave}

/-- A run and the same run with interjections leave worlds in which every call comes to the
same. -/
theorem twins_of_harmless (harmless : weave.Harmless) :
    TwinsForAll ((Relay.initial configuration).incurAll weave.whole)
      ((Relay.initial configuration).incurAll weave.bare) := by
  induction weave using List.reverseRecOn with
  | nil => exact ⟨rfl, rfl, rfl, rfl, fun _ => rfl, fun _ _ => rfl⟩
  | append_singleton past stitch ih =>
      have twins := ih harmless.front
      rw [Weave.whole_snoc, incurAll_snoc]
      cases stitch with
      | own incident =>
          rw [Weave.bare_snoc_own, incurAll_snoc]
          exact twins.incur incident
      | extra connection text =>
          rw [Weave.bare_snoc_extra]
          exact twins.interjected connection harmless.last

/-- A wire is the same if its connection interjects nothing. -/
theorem wire_eq_of_harmless (harmless : weave.Harmless) {id : ConnectionId}
    (silent : ¬ weave.Interjects id) :
    ((Relay.initial configuration).incurAll weave.whole).wire id =
      ((Relay.initial configuration).incurAll weave.bare).wire id := by
  induction weave using List.reverseRecOn with
  | nil => rfl
  | append_singleton past stitch ih =>
      rw [Weave.interjects_snoc_iff, not_or] at silent
      have same := ih harmless.front silent.1
      have twins := twins_of_harmless configuration harmless.front
      rw [Weave.whole_snoc, incurAll_snoc]
      cases stitch with
      | own incident =>
          rw [Weave.bare_snoc_own, incurAll_snoc]
          exact twins.wire_incur same incident
      | extra connection text =>
          have apart : connection.id ≠ id := fun here => silent.2 ⟨connection, text, rfl, here⟩
          rw [Weave.bare_snoc_extra, ← same]
          exact wire_of_interjection connection harmless.last twins.sound apart

/-- What a run with interjections puts on a wire is what it should. -/
theorem along_put_whole (harmless : weave.Harmless) (id : ConnectionId) :
    (Relay.initial configuration).along (put id) weave.whole =
      (Relay.initial configuration).woven id weave := by
  induction weave using List.reverseRecOn with
  | nil => rfl
  | append_singleton past stitch ih =>
      have twins := twins_of_harmless configuration harmless.front
      rw [Weave.whole_snoc, along_snoc, woven_append, ih harmless.front]
      congr 1
      cases stitch with
      | own incident => exact (twins.put_eq id incident).trans (List.append_nil _).symm
      | extra connection text =>
          rw [Stitch.incident, put_of_interjection connection harmless.last twins.sound,
            twins.asked_eq, twins.configuration]
          exact (List.append_nil _).symm

/-- While nothing is taken off a wire and nothing is lost on it, everything stays there that
was put there. -/
theorem outbox_incurAll (run : List Incident) {id : ConnectionId}
    (kept : .collected id ∉ run) (heard : .abandoned id ∉ run) :
    (((Relay.initial configuration).incurAll run).wire id).outbox =
      (Relay.initial configuration).along (put id) run := by
  induction run using List.reverseRecOn with
  | nil => rfl
  | append_singleton past incident ih =>
      rw [List.mem_append, not_or, List.mem_singleton] at kept heard
      have sound := poisoned_incurAll configuration past
      rw [incurAll_snoc, along_snoc, ← ih kept.1 heard.1]
      cases incident with
      | call call => rw [World.incur, put_call sound, outbox_after sound]
      | collected other =>
          have apart : id ≠ other := fun same => kept.2 (congrArg Incident.collected same)
          rw [wire_collected, if_neg apart]
          exact (List.append_nil _).symm
      | abandoned other =>
          have apart : id ≠ other := fun same => heard.2 (congrArg Incident.abandoned same)
          rw [wire_abandoned, if_neg apart]
          exact (List.append_nil _).symm

/-- The answers on a wire answer the requests made there, one by one. -/
theorem filter_isReply_along (run : List Incident) (id : ConnectionId) :
    ((Relay.initial configuration).along (put id) run).filter Outgoing.isReply =
      ((Relay.initial configuration).along (asked id) run).map
        (.configuration configuration) := by
  induction run using List.reverseRecOn with
  | nil => rfl
  | append_singleton past incident ih =>
      rw [along_snoc, along_snoc, List.filter_append, List.map_append, ih,
        filter_isReply_put (poisoned_incurAll configuration past), configuration_incurAll]

end

theorem exists_request_of_mem_along {world : World Relay} {id : ConnectionId}
    {run : List Incident} {token : Option Payload} (listed : token ∈ world.along (asked id) run) :
    ∃ text, Request.token? text = some token := by
  induction run generalizing world with
  | nil => cases listed
  | cons incident rest ih =>
      rw [along, List.mem_append] at listed
      rcases listed with here | later
      · unfold asked at here
        split at here
        · next connection text =>
          split at here
          · exact ⟨text, Option.mem_toList.mp here⟩
          · cases here
        all_goals cases here
      · exact ih later

end World

/-! ## Nothing is disturbed -/

/-- How a run with interjections compares with the run without them, when both have come to
the same point. -/
structure Undisturbed (configuration : PeerConfiguration) (past : Weave) : Prop where
  sessions : ((Relay.initial configuration).incurAll past.whole).sessions =
    ((Relay.initial configuration).incurAll past.bare).sessions
  /-- Whatever call is made next has the same result. -/
  result : ∀ call, ((Relay.initial configuration).incurAll past.whole).result call =
    ((Relay.initial configuration).incurAll past.bare).result call
  closing : ∀ id, (((Relay.initial configuration).incurAll past.whole).wire id).closing =
    (((Relay.initial configuration).incurAll past.bare).wire id).closing
  others : ∀ id, ¬ past.Interjects id →
    ((Relay.initial configuration).incurAll past.whole).wire id =
      ((Relay.initial configuration).incurAll past.bare).wire id
  /-- All that was ever put on a wire, whether it is still there or not. -/
  put : ∀ id, (Relay.initial configuration).along (World.put id) past.whole =
    (Relay.initial configuration).woven id past
  /-- What is on a wire that nothing was taken off and that is still attended. -/
  outbox : ∀ id, .collected id ∉ past.bare → .abandoned id ∉ past.bare →
    (((Relay.initial configuration).incurAll past.whole).wire id).outbox =
      (Relay.initial configuration).woven id past
  /-- The answers on a wire carry one and the same result, and the tokens of the requests. -/
  replies : ∀ id, List.Forall₂
    (fun message token => message.Answers configuration.result token)
    (((Relay.initial configuration).along (World.put id) past.whole).filter Outgoing.isReply)
    ((Relay.initial configuration).along (World.asked id) past.whole)
  /-- A request is an object that asks for the configuration, and its token the text of the
  last value with that key. -/
  tokens : ∀ text token, Request.token? text = some token ↔
    ∃ members, text ∈ Json.objectTexts members ∧ Json.AskForConfiguration members ∧
      token = Json.lastValue members "msg_id"

/-- At no point of a run is anything disturbed by what was interjected up to there. -/
theorem undisturbed_of_harmless (configuration : PeerConfiguration) {weave : Weave}
    (harmless : weave.Harmless) :
    ∀ past : Weave, past <+: weave → Undisturbed configuration past := by
  intro past front
  have harmless' : past.Harmless := fun stitch listed => harmless stitch (front.subset listed)
  have twins := World.twins_of_harmless configuration harmless'
  have put := World.along_put_whole configuration harmless'
  constructor
  case sessions => exact twins.sessions
  case result => exact fun call => twins.result_eq fun _ _ => trivial
  case closing => exact twins.closing
  case others => exact fun id silent => World.wire_eq_of_harmless configuration harmless' silent
  case put => exact put
  case outbox =>
    intro id kept heard
    rw [← put]
    apply World.outbox_incurAll
    · exact fun listed => kept (Weave.mem_bare_of_mem_whole nofun listed)
    · exact fun listed => heard (Weave.mem_bare_of_mem_whole nofun listed)
  case replies =>
    intro id
    rw [World.filter_isReply_along, List.forall₂_map_left_iff, List.forall₂_same]
    intro token listed
    obtain ⟨text, asked⟩ := World.exists_request_of_mem_along listed
    exact Outgoing.answers_of_token? asked configuration
  case tokens => exact fun text token => Request.token?_eq_some_iff

/-- A request for the configuration under a token. -/
def question : Octets :=
  Json.writeObject [("method", Json.writeString (.ofText "GET")),
    ("resource", Json.writeString (.ofText "/peerconnection")), ("msg_id", .ofText "7")]

/-- A meeting with interjections: requests before anybody came, between two notices and
after a hang-up, an object that asks for nothing and a text that is no object. -/
def heckled : Weave :=
  [.extra (visitor 1 "room") question, .own (.call (.opened (visitor 0 "room"))),
    .own (.call (.message (visitor 0 "room") (notice "1"))),
    .extra (visitor 2 "room") (.ofText "oops"), .own (.call (.opened (visitor 1 "room"))),
    .extra (visitor 1 "room") question, .own (.call (.message (visitor 0 "room") (notice "2"))),
    .extra (visitor 0 "room") (.ofText "\x7b\x7d"), .own (.call (.closed (visitor 0 "room"))),
    .extra (visitor 1 "room") question]

theorem undisturbed_heckled : heckled.Harmless ∧
    (∀ past : Weave, past <+: heckled → Undisturbed default past) ∧
    (Relay.initial default).woven (visitor 1 "room").id heckled =
      [.configuration default (some (.ofText "7")), .notify (.ofText "1"),
        .configuration default (some (.ofText "7")), .notify (.ofText "2"),
        .configuration default (some (.ofText "7"))] := by
  have harmless : heckled.Harmless := by decide +kernel
  exact ⟨harmless, undisturbed_of_harmless default harmless, by decide +kernel⟩

end Rendezvous
