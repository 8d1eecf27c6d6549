/-
# Delivery

Whoever has a partner gets what the partner says: from its opening until one of the two
ends, every notice once, in order and as it was written. What is said before the other
has come is handed over when it comes. Whoever has no partner gets no notice.
-/

import Rendezvous.Proofs.Notices
import Rendezvous.Proofs.RawValues

namespace Rendezvous

variable {configuration : PeerConfiguration} {past : History} {call : HookCall}
  {speaker listener : Connection}

/-- One has heard what the other said until they parted. -/
def HeardFrom (configuration : PeerConfiguration) (past : History)
    (speaker listener : Connection) : Prop :=
  ((worldAfter configuration past).wire listener.id).notices =
    (past.untilParted speaker listener).said speaker

/-- What holds of all wires and of all that waits after an orderly history, in the form
in which it is preserved. -/
structure Relayed (configuration : PeerConfiguration) (past : History) : Prop where
  /-- What waits is all that its sender has said. -/
  waiting : ∀ host said,
    (worldAfter configuration past).sessions host.session = some (.lone host said) →
      said = past.said host
  heard : ∀ speaker listener, Partners configuration past speaker listener →
    HeardFrom configuration past speaker listener
  /-- Without a partner nothing is heard. -/
  silent : ∀ id,
    (∀ speaker listener, Partners configuration past speaker listener → listener.id ≠ id) →
      ((worldAfter configuration past).wire id).notices = []

theorem relayed_nil : Relayed configuration [] where
  waiting _ _ present := by cases present
  heard speaker listener partners := by
    obtain ⟨earlier, found, differ, id, session, present, -⟩ := partners
    obtain rfl := List.prefix_nil.mp found
    cases present
  silent _ _ := rfl

/-! ## One more call -/

/-- Who is paired with the owner of an identifier is the partner of its owner. -/
theorem Orderly.eq_of_paired_id (orderly : Orderly configuration past)
    (known : listener ∈ past.connections) {other peer : Connection}
    (together : (worldAfter configuration past).Paired other peer)
    (same : peer.id = listener.id) : peer = listener := by
  have settled := orderly.settled
  have heard := settled.known_of_member (together.symm.member settled.staged)
  exact orderly.eq_of_id heard known same

theorem Promised.ne_id_of_known (promised : Promised configuration past call)
    (known : listener ∈ past.connections) {newcomer : Connection}
    (opens : call = .opened newcomer) : newcomer.id ≠ listener.id := by
  subst opens
  exact (promised listener known).symm

namespace Relayed

variable (relayed : Relayed configuration past) (orderly : Orderly configuration past)
  (promised : Promised configuration past call)

include relayed orderly promised

theorem waiting_snoc {host : Connection} {said : List Payload}
    (present : (worldAfter configuration (past ++ [call])).sessions host.session =
      some (.lone host said)) : said = (past ++ [call]).said host := by
  have settled := orderly.settled
  have move := settled.moves orderly promised
  rw [worldAfter_snoc] at present
  rcases move.waiting_after settled.staged (fun _ => settled.unmarked_of_member) present with
    ⟨earlier, here, rfl⟩ | ⟨rfl, rfl⟩
  · rw [History.said_snoc, relayed.waiting host earlier here]
  · have unknown : host ∉ past.connections := fun known => promised host known rfl
    rw [History.said_snoc, History.said_eq_nil unknown]
    rfl

/-- Two that stay paired, or part. -/
theorem heard_of_paired (together : (worldAfter configuration past).Paired speaker listener) :
    HeardFrom configuration (past ++ [call]) speaker listener := by
  have settled := orderly.settled
  have member := together.member settled.staged
  have member' := together.symm.member settled.staged
  have stays := settled.not_closed_of_member member
  have stays' := settled.not_closed_of_member member'
  have known := settled.known_of_member member'
  have before := relayed.heard speaker listener ⟨past, List.prefix_rfl, together⟩
  rw [HeardFrom, History.untilParted_eq_self stays stays'] at before
  obtain ⟨heard, hears, after⟩ :=
    (settled.moves orderly promised).exists_hears settled.staged listener.id
  rw [HeardFrom, worldAfter_snoc, after, before,
    History.said_untilParted_snoc stays stays']
  congr 1
  cases hears with
  | nothing unsaid =>
      rw [unsaid speaker listener together rfl (settled.unmarked_of_member member)]
      rfl
  | waited opens same _ => exact absurd same (promised.ne_id_of_known known opens)
  | more paired same words =>
      obtain rfl := orderly.eq_of_paired_id known paired same
      obtain rfl := together.symm.eq_of_paired paired.symm settled.staged
      rw [words]
      rfl

/-- Two that have parted. -/
theorem heard_of_parted (partners : Partners configuration past speaker listener)
    (parted : Parted configuration past speaker listener) :
    HeardFrom configuration (past ++ [call]) speaker listener := by
  have settled := orderly.settled
  have known := partners.symm.mem_connections orderly
  obtain ⟨heard, hears, after⟩ :=
    (settled.moves orderly promised).exists_hears settled.staged listener.id
  rw [HeardFrom, worldAfter_snoc, after, relayed.heard speaker listener partners,
    History.untilParted_append_of_ended parted.ended]
  cases hears with
  | nothing unsaid => exact List.append_nil _
  | waited opens same _ => exact absurd same (promised.ne_id_of_known known opens)
  | more paired same words =>
      obtain rfl := orderly.eq_of_paired_id known paired same
      exact absurd (paired.symm.member settled.staged) parted.right

/-- A newcomer hears all that its host has said. -/
theorem heard_of_newcomer {said : List Payload}
    (meets : (worldAfter configuration past).Meets
      (worldAfter configuration (past ++ [call])) call speaker listener said) :
    HeardFrom configuration (past ++ [call]) speaker listener := by
  obtain ⟨rfl, waiting, wire⟩ := meets
  have settled := orderly.settled
  have stays := settled.not_closed_of_member ⟨_, waiting, by simp⟩
  have unknown : listener ∉ past.connections := fun known => promised listener known rfl
  have stays' : .closed listener ∉ past := fun ended =>
    unknown (History.mem_connections_of_mem ended rfl)
  have quiet : ((worldAfter configuration past).wire listener.id).notices = [] := by
    apply relayed.silent
    intro other peer partners
    exact promised peer (partners.symm.mem_connections orderly)
  rw [HeardFrom, wire, Function.update_self, Wire.notices_carrying_notify, quiet, List.nil_append,
    relayed.waiting speaker said waiting, History.said_untilParted_snoc stays stays']
  exact (List.append_nil _).symm

/-- A host has heard nothing when the newcomer, who has said nothing, comes in. -/
theorem heard_of_host {said : List Payload}
    (meets : (worldAfter configuration past).Meets
      (worldAfter configuration (past ++ [call])) call listener speaker said) :
    HeardFrom configuration (past ++ [call]) speaker listener := by
  obtain ⟨rfl, waiting, wire⟩ := meets
  have settled := orderly.settled
  have member : (worldAfter configuration past).Member listener := ⟨_, waiting, by simp⟩
  have known := settled.known_of_member member
  have unknown : speaker ∉ past.connections := fun heard => promised speaker heard rfl
  have stays : .closed speaker ∉ past := fun ended =>
    unknown (History.mem_connections_of_mem ended rfl)
  have quiet : ((worldAfter configuration past).wire listener.id).notices = [] := by
    apply relayed.silent
    intro other peer partners same
    obtain rfl := orderly.eq_of_id (partners.symm.mem_connections orderly) known same
    rcases partners.paired_or_parted orderly with together | parted
    · exact World.not_paired_of_lone waiting settled.staged together.symm
    · exact parted.right member
  rw [HeardFrom, wire, Function.update_of_ne (promised listener known), quiet,
    History.said_untilParted_snoc stays (settled.not_closed_of_member member),
    History.said_eq_nil unknown]
  rfl

theorem heard_snoc (partners : Partners configuration (past ++ [call]) speaker listener) :
    HeardFrom configuration (past ++ [call]) speaker listener := by
  have settled := orderly.settled
  rcases Partners.snoc_iff.mp partners with earlier | together
  · rcases earlier.paired_or_parted orderly with together | parted
    · exact relayed.heard_of_paired orderly promised together
    · exact relayed.heard_of_parted orderly promised earlier parted
  · have move := settled.moves orderly promised
    rw [worldAfter_snoc] at together
    rcases move.paired_before settled.staged together with before | ⟨said, meets⟩ | ⟨said, meets⟩
    · exact relayed.heard_of_paired orderly promised before
    · rw [← worldAfter_snoc] at meets
      exact relayed.heard_of_newcomer orderly promised meets
    · rw [← worldAfter_snoc] at meets
      exact relayed.heard_of_host orderly promised meets

theorem silent_snoc {id : ConnectionId}
    (alone : ∀ speaker listener, Partners configuration (past ++ [call]) speaker listener →
      listener.id ≠ id) :
    ((worldAfter configuration (past ++ [call])).wire id).notices = [] := by
  have settled := orderly.settled
  have quiet : ((worldAfter configuration past).wire id).notices = [] := by
    apply relayed.silent
    intro other peer partners
    exact alone other peer (Partners.snoc_iff.mpr (.inl partners))
  obtain ⟨heard, hears, after⟩ := (settled.moves orderly promised).exists_hears settled.staged id
  rw [worldAfter_snoc, after, quiet, List.nil_append]
  cases hears with
  | nothing unsaid => rfl
  | waited opens same together =>
      rw [← worldAfter_snoc] at together
      exact absurd same (alone _ _ (Partners.snoc_iff.mpr (.inr together)))
  | more together same words =>
      have before : Partners configuration past _ _ := ⟨past, List.prefix_rfl, together⟩
      exact absurd same (alone _ _ (Partners.snoc_iff.mpr (.inl before)))

theorem snoc : Relayed configuration (past ++ [call]) where
  waiting _ _ present := relayed.waiting_snoc orderly promised present
  heard _ _ partners := relayed.heard_snoc orderly promised partners
  silent _ alone := relayed.silent_snoc orderly promised alone

end Relayed

theorem Orderly.relayed {history : History} (orderly : Orderly configuration history) :
    Relayed configuration history := by
  induction orderly with
  | nil => exact relayed_nil
  | snoc before promised ih => exact ih.snoc before promised

/-! ## What is on the wire -/

/-- The notices on a wire as they are sent. -/
def Wire.noticeFrames (wire : Wire) : List Octets :=
  (wire.outbox.filter fun message => message.notice?.isSome).map Outgoing.toText

/-- The frame in which data is passed on. -/
def noticeFrame (data : Payload) : Octets :=
  .ofText "\x7b\"method\":\"NOTIFY\",\"data\":" ++ data ++ .ofText "\x7d"

theorem toText_notify (data : Payload) : (Outgoing.notify data).toText = noticeFrame data := by
  have front : Octets.ofText "\x7b\"method\":\"NOTIFY\",\"data\":" =
      0x7B :: (Json.writeMember "method" (Json.writeString (.ofText "NOTIFY")) ++ 0x2C ::
        (Json.writeString (.ofText "data") ++ [0x3A])) := by decide
  have back : Octets.ofText "\x7d" = [0x7D] := by decide
  rw [noticeFrame, front, back]
  simp [Outgoing.toText, Json.writeObject, Json.separated, Json.writeMember]

theorem Wire.noticeFrames_eq (wire : Wire) :
    wire.noticeFrames = wire.notices.map noticeFrame := by
  unfold noticeFrames notices
  induction wire.outbox with
  | nil => rfl
  | cons message rest ih =>
      cases message with
      | notify data => exact congrArg₂ List.cons (toText_notify data) ih
      | configuration peers msgId => exact ih
      | text content => exact ih

/-- One of two partners has got what the other has said, as it was said. Nothing is said
before an opening, so all that counts was said since then. -/
structure Delivered (configuration : PeerConfiguration) (history : History)
    (speaker listener : Connection) : Prop where
  /-- Until they part, every notice of the one goes to the other, once and in order. -/
  frames : ((worldAfter configuration history).wire listener.id).noticeFrames =
    ((history.untilParted speaker listener).said speaker).map noticeFrame
  /-- The data of a notice is a piece of the text that was sent, namely the value of its
  member of that name. -/
  verbatim : ∀ text data, .message speaker text ∈ history →
    Request.parse text = .ok (.notify data) →
      data <:+: text ∧ ∃ frame, Json.Frame.read text = .ok frame ∧
        frame.get? (.ofText "data") = some data

/-- Who has had a partner has got what the partner said while they were not parted, and
who has had none has got no notice. -/
theorem delivered_of_orderly {history : History} (orderly : Orderly configuration history)
    {listener : Connection} (known : listener ∈ history.connections) :
    (∀ speaker, Partners configuration history speaker listener →
      Delivered configuration history speaker listener) ∧
    ((∀ speaker, ¬ Partners configuration history speaker listener) →
      ((worldAfter configuration history).wire listener.id).noticeFrames = []) := by
  have relayed := orderly.relayed
  constructor
  · intro speaker partners
    refine ⟨?_, fun text data _ heard => ?_⟩
    · rw [Wire.noticeFrames_eq, relayed.heard speaker listener partners]
    · exact ⟨Request.isInfix_of_notify heard, Request.exists_read_of_notify heard⟩
  · intro alone
    rw [Wire.noticeFrames_eq, relayed.silent listener.id, List.map_nil]
    intro speaker peer partners same
    obtain rfl := orderly.eq_of_id (partners.symm.mem_connections orderly) known same
    exact alone speaker partners

/-- What was said before the second visitor came and what was said afterwards. -/
theorem delivered_reunion : Orderly default reunion ∧
    visitor 1 "room" ∈ reunion.connections ∧
    Partners default reunion (visitor 0 "room") (visitor 1 "room") ∧
    ((worldAfter default reunion).wire (visitor 1 "room").id).noticeFrames =
      [notice "1", notice "2"] := by
  have known : visitor 1 "room" ∈ reunion.connections := by decide
  have together : (worldAfter default (reunion.take 5)).Paired
      (visitor 0 "room") (visitor 1 "room") :=
    ⟨by decide, ⟨"room"⟩, _, rfl, by decide, by decide⟩
  have partners : Partners default reunion (visitor 0 "room") (visitor 1 "room") :=
    ⟨reunion.take 5, List.take_prefix 5 reunion, together⟩
  refine ⟨orderly_reunion, known, partners, ?_⟩
  rw [((delivered_of_orderly orderly_reunion known).1 _ partners).frames]
  decide

end Rendezvous
