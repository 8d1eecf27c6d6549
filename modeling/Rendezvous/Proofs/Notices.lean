/-
# What is said and what is heard

On one side stands what a connection says along a history: the data of its notices, in
their order. On the other side stand the notices on a wire. This module says what one
move adds to each of them, and what waits in a session meanwhile.
-/

import Rendezvous.Proofs.Pairing

namespace Rendezvous

open Function (update)

/-! ## Saying -/

namespace Request

/-- The data of a text, if it is a notice. -/
def notice? (text : Octets) : Option Payload :=
  match parse text with
  | .ok (.notify data) => some data
  | _ => none

theorem notice?_eq_some_iff {text : Octets} {data : Payload} :
    notice? text = some data ↔ parse text = .ok (.notify data) := by
  unfold notice?
  split
  · next other heard => simp [heard]
  · next unheard =>
    constructor
    · intro same
      cases same
    · intro heard
      exact absurd heard (unheard data)

end Request

namespace HookCall

/-- What a connection says with a call. -/
def said? (speaker : Connection) : HookCall → Option Payload
  | .message connection text => if connection = speaker then Request.notice? text else none
  | .handshake _ | .opened _ | .closed _ => none

theorem said?_eq_some_iff {speaker : Connection} {call : HookCall} {data : Payload} :
    call.said? speaker = some data ↔
      ∃ text, call = .message speaker text ∧ Request.parse text = .ok (.notify data) := by
  cases call with
  | handshake id => simp [said?]
  | opened connection => simp [said?]
  | closed connection => simp [said?]
  | message connection text =>
      by_cases same : connection = speaker
      · subst same
        simp [said?, Request.notice?_eq_some_iff]
      · simp [said?, same]

theorem said?_message_of_ne {speaker connection : Connection} (differ : connection ≠ speaker)
    (text : Octets) : (HookCall.message connection text).said? speaker = none := by
  rw [said?, if_neg differ]

/-- Who asks for the configuration says nothing. -/
theorem said?_of_getConfiguration {text : Octets} {msgId : Option Payload}
    (asked : Request.parse text = .ok (.getConfiguration msgId))
    (connection speaker : Connection) :
    (HookCall.message connection text).said? speaker = none := by
  cases words : (HookCall.message connection text).said? speaker with
  | none => rfl
  | some data =>
      obtain ⟨text', made, heard⟩ := said?_eq_some_iff.mp words
      cases made
      rw [asked] at heard
      cases heard

/-- Whether a call is the end of neither of two connections. -/
def sparesBoth (first second : Connection) (call : HookCall) : Bool :=
  call ≠ .closed first ∧ call ≠ .closed second

theorem sparesBoth_iff {first second : Connection} {call : HookCall} :
    call.sparesBoth first second = true ↔ call ≠ .closed first ∧ call ≠ .closed second :=
  decide_eq_true_iff

/-- Who ends says nothing with it. -/
theorem said?_of_not_sparesBoth {first second : Connection} {call : HookCall}
    (ends : call.sparesBoth first second = false) (speaker : Connection) :
    call.said? speaker = none := by
  have either : call = .closed first ∨ call = .closed second := by
    rwa [← Bool.not_eq_true, sparesBoth_iff, not_and_or, not_not, not_not] at ends
  rcases either with rfl | rfl
  · rfl
  · rfl

end HookCall

/-- Where nothing happens, nobody has said anything who is not hung up. -/
theorem Idle.said?_eq_none {before : World Relay} {call : HookCall}
    {result : Except SignalingError Unit} (still : Idle before call result)
    {speaker : Connection} (unmarked : (before.wire speaker.id).closing = false) :
    call.said? speaker = none := by
  cases words : call.said? speaker with
  | none => rfl
  | some data =>
      obtain ⟨text, rfl, heard⟩ := HookCall.said?_eq_some_iff.mp words
      rw [still data heard] at unmarked
      cases unmarked

namespace History

/-- What a connection says along a history, in order. -/
def said (speaker : Connection) (history : History) : List Payload :=
  history.filterMap (HookCall.said? speaker)

/-- The part of a history before one of two connections ends. -/
def untilParted (first second : Connection) (history : History) : History :=
  history.takeWhile (HookCall.sparesBoth first second)

variable {first second : Connection} {past : History}

theorem said_snoc (speaker : Connection) (past : History) (call : HookCall) :
    said speaker (past ++ [call]) = said speaker past ++ (call.said? speaker).toList := by
  rw [said, List.filterMap_append, List.filterMap_cons]
  cases call.said? speaker <;> rfl

/-- Who has not been heard of has said nothing. -/
theorem said_eq_nil {speaker : Connection} (unknown : speaker ∉ connections past) :
    said speaker past = [] := by
  apply List.filterMap_eq_nil_iff.mpr
  intro call made
  cases words : call.said? speaker with
  | none => rfl
  | some data =>
      obtain ⟨text, rfl, -⟩ := HookCall.said?_eq_some_iff.mp words
      exact absurd (mem_connections_of_mem made rfl) unknown

/-- Once one of the two has ended, nothing more counts. -/
theorem untilParted_append_of_ended (ended : .closed first ∈ past ∨ .closed second ∈ past)
    (rest : History) :
    untilParted first second (past ++ rest) = untilParted first second past := by
  induction past with
  | nil => simp at ended
  | cons call past ih =>
      rw [List.cons_append, untilParted, untilParted]
      cases spares : call.sparesBoth first second with
      | false =>
          rw [List.takeWhile_cons_of_neg (by simp [spares]),
            List.takeWhile_cons_of_neg (by simp [spares])]
      | true =>
          obtain ⟨stays, stays'⟩ := HookCall.sparesBoth_iff.mp spares
          have later : .closed first ∈ past ∨ .closed second ∈ past := by
            simpa [stays.symm, stays'.symm] using ended
          rw [List.takeWhile_cons_of_pos spares, List.takeWhile_cons_of_pos spares]
          exact congrArg (List.cons call) (ih later)

section

variable (stays : .closed first ∉ past) (stays' : .closed second ∉ past)

include stays stays'

theorem sparesBoth_of_mem : ∀ call ∈ past, call.sparesBoth first second = true := by
  intro call made
  apply HookCall.sparesBoth_iff.mpr
  exact ⟨fun same => stays (same ▸ made), fun same => stays' (same ▸ made)⟩

/-- As long as neither has ended, everything counts. -/
theorem untilParted_eq_self : untilParted first second past = past := by
  rw [untilParted, ← List.append_nil past,
    List.takeWhile_append_of_pos (sparesBoth_of_mem stays stays'), List.takeWhile_nil]

/-- The call with which one of the two ends may be counted as well: nothing is said
with it. -/
theorem said_untilParted_snoc (speaker : Connection) (call : HookCall) :
    said speaker (untilParted first second (past ++ [call])) =
      said speaker past ++ (call.said? speaker).toList := by
  rw [untilParted, List.takeWhile_append_of_pos (sparesBoth_of_mem stays stays')]
  cases spares : call.sparesBoth first second with
  | false =>
      rw [List.takeWhile_cons_of_neg (by simp [spares]), List.append_nil,
        HookCall.said?_of_not_sparesBoth spares]
      exact (List.append_nil _).symm
  | true => rw [List.takeWhile_cons_of_pos spares, List.takeWhile_nil, said_snoc]

end

end History

/-! ## Hearing -/

/-- The data of a message to a client, if it is a notice. -/
def Outgoing.notice? : Outgoing → Option Payload
  | .notify data => some data
  | .configuration _ _ | .text _ => none

namespace Wire

/-- The notices on a wire, the oldest first. -/
def notices (wire : Wire) : List Payload :=
  wire.outbox.filterMap Outgoing.notice?

theorem notices_carrying (wire : Wire) (messages : List Outgoing) :
    (wire.carrying messages).notices =
      wire.notices ++ messages.filterMap Outgoing.notice? :=
  List.filterMap_append

theorem notices_carrying_notify (wire : Wire) (said : List Payload) :
    (wire.carrying (said.map .notify)).notices = wire.notices ++ said := by
  rw [notices_carrying, List.filterMap_map]
  congr 1
  exact List.filterMap_some

end Wire

/-- What a call lets be heard on a wire: everything that has waited, one more notice, or
nothing. -/
inductive World.Hears (before after : World Relay) (call : HookCall) (id : ConnectionId) :
    List Payload → Prop
  /-- Nobody says anything to the one whose wire it is. -/
  | nothing (unsaid : ∀ speaker listener, before.Paired speaker listener → listener.id = id →
      (before.wire speaker.id).closing = false → call.said? speaker = none) :
    Hears before after call id []
  | waited {host newcomer : Connection} {said : List Payload} (opens : call = .opened newcomer)
    (same : newcomer.id = id) (together : after.Paired host newcomer) :
    Hears before after call id said
  | more {speaker listener : Connection} {data : Payload}
    (together : before.Paired speaker listener) (same : listener.id = id)
    (said : call.said? speaker = some data) : Hears before after call id [data]

namespace Move

variable {before after : World Relay} {call : HookCall} {result : Except SignalingError Unit}

/-- Every move adds to the notices of a wire what is heard on it. -/
theorem exists_hears (move : Move before after call result) (staged : before.Staged)
    (id : ConnectionId) : ∃ heard, before.Hears after call id heard ∧
      (after.wire id).notices = (before.wire id).notices ++ heard := by
  have quiet {wire : ConnectionId → Wire} (same : after.wire = wire)
      (kept : (wire id).notices = (before.wire id).notices)
      (unsaid : ∀ speaker listener, before.Paired speaker listener → listener.id = id →
        (before.wire speaker.id).closing = false → call.said? speaker = none) :
      ∃ heard, before.Hears after call id heard ∧
        (after.wire id).notices = (before.wire id).notices ++ heard := by
    refine ⟨[], .nothing unsaid, ?_⟩
    rw [same, kept, List.append_nil]
  cases move with
  | idle still _ wire =>
      apply quiet wire rfl
      intro speaker listener together same unmarked
      exact still.said?_eq_none unmarked
  | entered _ _ wire =>
      apply quiet wire rfl
      intros
      rfl
  | left _ _ wire =>
      apply quiet wire rfl
      intros
      rfl
  | @met newcomer host said waiting home differ sessions wire =>
      by_cases same : newcomer.id = id
      · subst same
        refine ⟨said, .waited rfl rfl (World.paired_of_update differ sessions), ?_⟩
        rw [wire, Function.update_self, Wire.notices_carrying_notify]
      · apply quiet wire
        · rw [Function.update_of_ne (Ne.symm same)]
        · intros
          rfl
  | @answered speaker text msgId asked _ wire =>
      apply quiet wire
      · rw [Function.update_apply]
        split
        · next same =>
          rw [same, Wire.notices_carrying]
          exact List.append_nil _
        · rfl
      · intro other listener together same unmarked
        exact HookCall.said?_of_getConfiguration asked speaker other
  | @kept speaker text data said heard waiting _ wire =>
      apply quiet wire rfl
      intro other listener together same unmarked
      apply HookCall.said?_message_of_ne
      rintro rfl
      exact World.not_paired_of_lone waiting staged together
  | @passed speaker peer text data heard together _ wire =>
      have words : (HookCall.message speaker text).said? speaker = some data :=
        HookCall.said?_eq_some_iff.mpr ⟨text, rfl, heard⟩
      by_cases same : peer.id = id
      · subst same
        refine ⟨[data], .more together rfl words, ?_⟩
        rw [wire, Function.update_self]
        exact Wire.notices_carrying_notify _ [data]
      · apply quiet wire
        · rw [Function.update_of_ne (Ne.symm same)]
        · intro other listener paired same' unmarked
          apply HookCall.said?_message_of_ne
          rintro rfl
          obtain rfl := together.eq_of_paired paired staged
          exact same same'
  | @parted leaver peer together _ wire =>
      apply quiet wire
      · rw [Function.update_apply]
        split
        · next same =>
          rw [same]
          rfl
        · rfl
      · intros
        rfl

/-- What waits in a session is what has waited and what its member says now. -/
theorem waiting_after (move : Move before after call result) (staged : before.Staged)
    (unmarked : ∀ connection, before.Member connection →
      (before.wire connection.id).closing = false)
    {host : Connection} {said : List Payload}
    (waiting : after.sessions host.session = some (.lone host said)) :
    (∃ earlier, before.sessions host.session = some (.lone host earlier) ∧
        said = earlier ++ (call.said? host).toList) ∨
      call = .opened host ∧ said = [] := by
  have silent (here : before.sessions host.session = some (.lone host said))
      (unsaid : call.said? host = none) :
      ∃ earlier, before.sessions host.session = some (.lone host earlier) ∧
        said = earlier ++ (call.said? host).toList := by
    refine ⟨said, here, ?_⟩
    rw [unsaid]
    exact (List.append_nil said).symm
  cases move with
  | idle still sessions _ =>
      rw [sessions] at waiting
      exact .inl (silent waiting (still.said?_eq_none (unmarked host ⟨_, waiting, by simp⟩)))
  | entered vacant sessions _ =>
      rcases World.stored_of_update sessions waiting with ⟨-, stored⟩ | ⟨-, here⟩
      · obtain ⟨rfl, rfl⟩ := Session.lone_inj (Option.some.inj stored)
        exact .inr ⟨rfl, rfl⟩
      · exact .inl (silent here rfl)
  | met _ _ _ sessions _ =>
      rcases World.stored_of_update sessions waiting with ⟨-, stored⟩ | ⟨-, here⟩
      · exact absurd (Option.some.inj stored).symm Session.lone_ne_pair
      · exact .inl (silent here rfl)
  | @answered speaker text msgId asked sessions _ =>
      rw [sessions] at waiting
      exact .inl (silent waiting (HookCall.said?_of_getConfiguration asked speaker host))
  | @kept speaker text data earlier heard here sessions _ =>
      left
      rcases World.stored_of_update sessions waiting with ⟨-, stored⟩ | ⟨other, here⟩
      · obtain ⟨rfl, rfl⟩ := Session.lone_inj (Option.some.inj stored)
        refine ⟨earlier, here, ?_⟩
        rw [HookCall.said?_eq_some_iff.mpr ⟨text, rfl, heard⟩]
        rfl
      · apply silent here
        apply HookCall.said?_message_of_ne
        intro same
        exact other (congrArg Connection.session same).symm
  | @passed speaker peer text data heard together sessions _ =>
      rw [sessions] at waiting
      refine .inl (silent waiting ?_)
      apply HookCall.said?_message_of_ne
      rintro rfl
      exact together.ne_lone staged waiting
  | left _ sessions _ | parted _ sessions _ =>
      rcases World.stored_of_update sessions waiting with ⟨-, stored⟩ | ⟨-, here⟩
      · cases stored
      · exact .inl (silent here rfl)

end Move

end Rendezvous
