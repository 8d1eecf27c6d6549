/-
# When a call fails

A full session refuses whoever wants in, a text that is no object is refused, and so is a
request for the configuration that nobody is left to hear the answer to. Nothing else
fails, and a call that fails leaves the world as it was.

The world may be what any run of incidents has made of it, so it has to be shown first
that no session ever has more than two members, that every session has the name under
which it is kept, and that a receiver is gone from the moment it was dropped.
-/

import Rendezvous.Proofs.Footprint
import Rendezvous.Proofs.Incidents
import Rendezvous.Proofs.Meaning

namespace Rendezvous

open Function (update)

/-! ## Sessions in order -/

/-- What holds of a session at any time, whatever calls are made. -/
structure Session.Fits (session : Session) (id : SessionId) : Prop where
  named : session.id = id
  within : session.members.length ≤ Session.capacity

namespace Session

variable {session : Session} {id : SessionId}

theorem fits_new (id : SessionId) : (new id).Fits id :=
  ⟨rfl, Nat.zero_le _⟩

theorem length_detach_le (session : Session) (gone : ConnectionId) :
    (session.detach gone).members.length ≤ session.members.length :=
  List.length_filter_le _ _

namespace Fits

variable (fits : session.Fits id)

include fits

theorem isFull_iff : session.isFull = true ↔ session.members.length = 2 := by
  have within : session.members.length ≤ 2 := fits.within
  rw [isFull, capacity, decide_eq_true_iff]
  omega

theorem welcoming (room : session.isFull = false) (connection : Connection) :
    (session.welcoming connection).Fits id := by
  refine ⟨fits.named, ?_⟩
  have space : ¬ capacity ≤ session.members.length := of_decide_eq_false room
  rw [Session.welcoming, List.length_append, List.length_singleton]
  omega

theorem enqueue (sender : ConnectionId) (payload : Payload) :
    (session.enqueue sender payload).Fits id :=
  ⟨fits.named, fits.within⟩

theorem detach (gone : ConnectionId) : (session.detach gone).Fits id :=
  ⟨fits.named, (length_detach_le session gone).trans fits.within⟩

theorem without (gone : ConnectionId) : (session.without gone).Fits id := by
  unfold Session.without
  cases session.partner? gone with
  | none => exact fits.detach gone
  | some peer => exact (fits.detach gone).detach peer.id

theorem remains : (session.remains.getD (new id)).Fits id := by
  unfold Session.remains
  split
  · exact fits_new id
  · exact fits

end Fits

end Session

namespace World

/-- Every session is in order. -/
def InOrder (world : World Relay) : Prop :=
  ∀ id, (world.session id).Fits id

/-- A session exists and has two members. -/
def HasTwo (world : World Relay) (id : SessionId) : Prop :=
  ∃ session, world.sessions id = some session ∧ session.members.length = 2

variable {world : World Relay}

theorem InOrder.isFull_iff (order : world.InOrder) (id : SessionId) :
    (world.session id).isFull = true ↔ world.HasTwo id := by
  rw [(order id).isFull_iff]
  constructor
  · intro two
    cases present : world.sessions id with
    | none =>
        rw [World.session, present] at two
        cases two
    | some session =>
        rw [session_of_sessions present] at two
        exact ⟨session, present, two⟩
  · rintro ⟨session, present, two⟩
    rwa [session_of_sessions present]

/-- What a call stores of its session is in order. -/
theorem InOrder.stored (order : world.InOrder) (call : HookCall) :
    ((world.effect call).stored.getD (.new call.session)).Fits call.session := by
  have here := order call.session
  have comes := world.comes_effect call
  generalize world.effect call = effect at comes ⊢
  cases comes with
  | idle | answered parsed | passed parsed found => exact here
  | @welcomed connection room => exact here.welcoming room connection
  | @kept connection text data parsed => exact here.enqueue connection.id data
  | @closed connection =>
      cases present : world.sessions connection.session with
      | none => exact Session.fits_new connection.session
      | some session =>
          have fits : session.Fits connection.session := by
            rw [← session_of_sessions present]
            exact here
          exact (fits.without connection.id).remains

theorem InOrder.after (order : world.InOrder) (sound : world.core.poisoned = false)
    (call : HookCall) : (world.after call).InOrder := by
  intro id
  rw [session_of_update (sessions_after sound call), Function.update_apply]
  split
  · next same =>
    rw [same]
    exact order.stored call
  · exact order id

theorem InOrder.incur (order : world.InOrder) (sound : world.core.poisoned = false)
    (incident : Incident) : (world.incur incident).InOrder := by
  cases incident with
  | call call => exact order.after sound call
  | collected id | abandoned id => exact order

theorem attended_incur (sound : world.core.poisoned = false) (incident : Incident)
    (id : ConnectionId) : ((world.incur incident).wire id).attended = false ↔
      (world.wire id).attended = false ∨ incident = .abandoned id := by
  cases incident with
  | call call =>
      rw [World.incur, attended_after sound]
      simp
  | collected other =>
      rw [wire_collected]
      split
      · next same => simp [same, Wire.drained]
      · simp
  | abandoned other =>
      rw [wire_abandoned]
      split
      · next same => simp [same, Wire.cut]
      · next apart => simp [Ne.symm apart]

/-! ## After any run -/

theorem InOrder.incurAll (order : world.InOrder) (sound : world.core.poisoned = false)
    (run : List Incident) : (world.incurAll run).InOrder := by
  induction run using List.reverseRecOn with
  | nil => exact order
  | append_singleton past incident ih =>
      rw [incurAll_snoc]
      exact ih.incur ((poisoned_incurAll_eq world past).trans sound) incident

section

variable (configuration : PeerConfiguration) (run : List Incident)

theorem inOrder_incurAll : ((Relay.initial configuration).incurAll run).InOrder := by
  have order : (Relay.initial configuration).InOrder := Session.fits_new
  exact order.incurAll rfl run

/-- A receiver is gone where it was dropped at some time. -/
theorem attended_incurAll (id : ConnectionId) :
    (((Relay.initial configuration).incurAll run).wire id).attended = false ↔
      .abandoned id ∈ run := by
  induction run using List.reverseRecOn with
  | nil => exact iff_of_false nofun List.not_mem_nil
  | append_singleton past incident ih =>
      rw [incurAll_snoc, attended_incur (poisoned_incurAll configuration past), ih,
        List.mem_append, List.mem_singleton, eq_comm]

end

/-! ## Results -/

section

variable (sound : world.core.poisoned = false) (connection : Connection) {text : Octets}

include sound

theorem result_handshake (id : SessionId) : world.result (.handshake id) =
    if (world.session id).isFull then .error (.spaceFull id) else .ok () :=
  result_eq_effect sound (.handshake id)

theorem result_opened : world.result (.opened connection) =
    if (world.session connection.session).isFull then
      .error (.spaceFull (world.session connection.session).id)
    else .ok () := by
  rw [result_eq_effect sound, effect_opened]
  split <;> rfl

theorem result_message : world.result (.message connection text) =
    match Request.parse text with
    | .error fault => .error (.protocol fault.cause (.of text fault.position))
    | .ok (.getConfiguration _) =>
      if (world.wire connection.id).attended then .ok () else .error (.peerGone connection.id)
    | .ok (.notify _) | .ok (.unrecognized _) => .ok () := by
  rw [result_eq_effect sound]
  cases parsed : Request.parse text with
  | error fault =>
      rw [effect_of_fault connection parsed]
      rfl
  | ok request =>
      cases request with
      | getConfiguration msgId => rw [effect_of_getConfiguration connection parsed]
      | unrecognized reason =>
          rw [effect_of_unrecognized connection parsed]
          rfl
      | notify data =>
          rw [effect_of_notify connection parsed]
          split
          · rfl
          · split <;> rfl

/-- A text is a breach of the protocol where it is no object. -/
theorem result_eq_protocol_iff :
    (∃ cause place, world.result (.message connection text) = .error (.protocol cause place)) ↔
      ¬ ∃ members, text ∈ Json.objectTexts members := by
  rw [result_message sound, ← Request.exists_parse_iff]
  cases Request.parse text with
  | error fault => simp
  | ok request =>
      cases request with
      | getConfiguration msgId => by_cases (world.wire connection.id).attended <;> simp [*]
      | notify data | unrecognized reason => simp

/-- A request is not answered where nobody is left to hear the answer. -/
theorem result_eq_peerGone_iff :
    world.result (.message connection text) = .error (.peerGone connection.id) ↔
      (∃ members, text ∈ Json.objectTexts members ∧ Json.AskForConfiguration members) ∧
        (world.wire connection.id).attended = false := by
  have asks_iff : (∃ members, text ∈ Json.objectTexts members ∧
      Json.AskForConfiguration members) ↔
        ∃ msgId, Request.parse text = .ok (.getConfiguration msgId) := by
    simp only [Json.parse_eq_getConfiguration_iff]
    exact ⟨fun ⟨members, derived, asks⟩ => ⟨_, members, derived, asks, rfl⟩,
      fun ⟨_, members, derived, asks, _⟩ => ⟨members, derived, asks⟩⟩
  rw [result_message sound, asks_iff]
  cases Request.parse text with
  | error fault => simp
  | ok request =>
      cases request with
      | getConfiguration msgId => by_cases (world.wire connection.id).attended <;> simp [*]
      | notify data | unrecognized reason => simp

/-- Every other text is accepted. -/
theorem result_eq_ok_iff : world.result (.message connection text) = .ok () ↔
    ∃ members, text ∈ Json.objectTexts members ∧
      (Json.AskForConfiguration members → (world.wire connection.id).attended = true) := by
  have whole : (∃ members, text ∈ Json.objectTexts members ∧
      (Json.AskForConfiguration members → (world.wire connection.id).attended = true)) ↔
        ∃ request, Request.parse text = .ok request ∧
          ∀ msgId, request = .getConfiguration msgId →
            (world.wire connection.id).attended = true := by
    constructor
    · rintro ⟨members, derived, heard⟩
      refine ⟨_, Json.parse_of_mem_objectTexts derived, fun msgId request => heard ?_⟩
      exact ((Json.asks_ofFrame members).eq_getConfiguration_iff.mp request).1
    · rintro ⟨request, parsed, heard⟩
      obtain ⟨members, derived, rfl⟩ := Json.exists_members_of_parse parsed
      refine ⟨members, derived, fun asks =>
        heard (Json.lastValue members "msg_id") ?_⟩
      exact (Json.asks_ofFrame members).eq_getConfiguration_iff.mpr ⟨asks, rfl⟩
  rw [result_message sound, whole]
  cases Request.parse text with
  | error fault => simp
  | ok request =>
      cases request with
      | getConfiguration msgId => simp
      | notify data | unrecognized reason => simp

end

end World

/-! ## Failing exactly -/

/-- The calls that fail in a world, and how, given whose receivers are gone. -/
structure FailsExactly (world : World Relay) (gone : ConnectionId → Prop) : Prop where
  handshake : ∀ id error, world.result (.handshake id) = .error error ↔
    world.HasTwo id ∧ error = .spaceFull id
  opened : ∀ connection error, world.result (.opened connection) = .error error ↔
    world.HasTwo connection.session ∧ error = .spaceFull connection.session
  breach : ∀ connection text,
    (∃ cause place, world.result (.message connection text) = .error (.protocol cause place)) ↔
      ¬ ∃ members, text ∈ Json.objectTexts members
  unheard : ∀ connection text,
    world.result (.message connection text) = .error (.peerGone connection.id) ↔
      (∃ members, text ∈ Json.objectTexts members ∧ Json.AskForConfiguration members) ∧
        gone connection.id
  accepted : ∀ connection text, world.result (.message connection text) = .ok () ↔
    ∃ members, text ∈ Json.objectTexts members ∧
      (Json.AskForConfiguration members → ¬ gone connection.id)
  closed : ∀ connection, world.result (.closed connection) = .ok ()
  /-- A call that fails leaves everything as it was. -/
  unchanged : ∀ call error, world.result call = .error error → world.after call = world
  handshake_unchanged : ∀ id, world.after (.handshake id) = world

/-- After any run, calls fail for the reasons given and for no others. -/
theorem failsExactly_incurAll (configuration : PeerConfiguration) (run : List Incident) :
    FailsExactly ((Relay.initial configuration).incurAll run) fun id => .abandoned id ∈ run := by
  have sound := World.poisoned_incurAll configuration run
  have order := World.inOrder_incurAll configuration run
  have gone_iff := World.attended_incurAll configuration run
  generalize (Relay.initial configuration).incurAll run = world at sound order gone_iff
  constructor
  case handshake =>
    intro id error
    rw [World.result_handshake sound, ← order.isFull_iff]
    split <;> simp [*, eq_comm]
  case opened =>
    intro connection error
    rw [World.result_opened sound, ← order.isFull_iff, (order connection.session).named]
    split <;> simp [*, eq_comm]
  case breach => exact fun connection text => World.result_eq_protocol_iff sound connection
  case unheard =>
    intro connection text
    rw [World.result_eq_peerGone_iff sound, gone_iff]
  case accepted =>
    intro connection text
    simp only [World.result_eq_ok_iff sound, ← gone_iff, Bool.not_eq_false]
  case closed =>
    intro connection
    rw [World.result_eq_effect sound, World.effect_closed]
  case unchanged => exact fun call error => Relay.world_of_error
  case handshake_unchanged => exact fun id => Relay.world_handshake id world

end Rendezvous
