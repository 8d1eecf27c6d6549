/-
# Notices that come too early

A connection may be heard of before it is opened. What it says then, with nobody in its
session, waits for the next who is opened there, whoever that is: the speaker itself, if it
comes first. Where others come first nobody ever hears itself, and what was said too early
is kept for the other party.
-/

import Rendezvous.Proofs.Vacancies

namespace Rendezvous

/-- A history in which calls of a connection may come before its opening. Connections are
told apart by their identifiers, none is opened twice, and nothing is heard of one that has
ended. -/
structure Racing (history : History) : Prop where
  told_apart : ∀ one ∈ history.connections, ∀ other ∈ history.connections,
    one.id = other.id → one = other
  opened_once : history.arrivals.Nodup
  ends_last : history.Pairwise fun earlier later =>
    ∀ connection, earlier = .closed connection → later.connection? ≠ some connection

/-- A text of a connection that is not open yet is a notice and finds nobody in the
session. -/
structure TooEarly (configuration : PeerConfiguration) (past : History) (sender : Connection)
    (text : Octets) (data : Payload) : Prop where
  said : Request.parse text = .ok (.notify data)
  unopened : .opened sender ∉ past
  alone : ((worldAfter configuration past).session sender.session).members = []

/-- A notice that came too early waits: nobody has been opened and nobody has ended in the
session since. -/
def EarlyNotice (configuration : PeerConfiguration) (past : History) (sender : Connection)
    (data : Payload) : Prop :=
  ∃ before text since, past = before ++ .message sender text :: since ∧
    TooEarly configuration before sender text data ∧ Spares sender.session since

/-- What becomes of the notices that come too early. -/
structure FateOfEarlyNotices (configuration : PeerConfiguration) (history : History) : Prop where
  /-- Who is opened next in the session hears them, the sender as well as another. -/
  heard_by_next : ∀ past next rest sender data, history = past ++ .opened next :: rest →
    EarlyNotice configuration past sender data → next.session = sender.session →
      ⟨sender.id, data⟩ ∈ (worldAfter configuration past).heard (.opened next) next.id
  /-- If an end comes before that, they are gone with the session. -/
  lost_with_end : ∀ past other rest sender data, history = past ++ .closed other :: rest →
    EarlyNotice configuration past sender data → other.session = sender.session →
      (worldAfter configuration (past ++ [.closed other])).sessions sender.session = none
  /-- Nobody hears itself in any other way. -/
  heard_by_self : ∀ id, ∀ heard ∈ heardBy configuration history id, heard.speaker = id →
    ∃ past sender rest, sender.id = id ∧ history = past ++ .opened sender :: rest ∧
      EarlyNotice configuration past sender heard.data

/-- Where something was said too early, another is opened next in the session, unless the
sender ends: nobody else ends there before, and the sender is not the next to be opened. -/
def OthersComeFirst (configuration : PeerConfiguration) (history : History) : Prop :=
  ∀ past call rest sender data, history = past ++ call :: rest →
    EarlyNotice configuration past sender data → call.Stirs sender.session →
      call = .closed sender ∨ ∃ other, call = .opened other ∧ other ≠ sender

/-- Nobody hears itself, and what is said too early is for the other party. -/
structure KeptForTheOther (configuration : PeerConfiguration) (history : History) : Prop where
  never_to_self : ∀ id, ∀ heard ∈ heardBy configuration history id, heard.speaker ≠ id
  /-- As long as the sender has not ended, the first other connection to be opened in the
  session hears what was said too early. -/
  delivered : ∀ past text since other rest sender data,
    history = past ++ .message sender text :: (since ++ .opened other :: rest) →
      TooEarly configuration past sender text data → .closed sender ∉ since →
        other.session = sender.session → other ≠ sender →
          (∀ newcomer, .opened newcomer ∈ since → newcomer.session = sender.session →
            newcomer = sender) →
              ⟨sender.id, data⟩ ∈
                (worldAfter configuration (past ++ .message sender text :: since)).heard
                  (.opened other) other.id

section

variable {configuration : PeerConfiguration} {history past rest since : History}
  {connection sender next : Connection} {text : Octets} {data : Payload} {id : ConnectionId}

/-! ## Racing histories -/

theorem Racing.opened_first (racing : Racing history)
    (whole : history = past ++ .opened connection :: rest) : .opened connection ∉ past := by
  intro earlier
  have once := racing.opened_once
  rw [whole, History.arrivals_append, List.nodup_append] at once
  have before : connection ∈ past.arrivals := List.mem_filterMap.mpr ⟨_, earlier, rfl⟩
  have now : connection ∈ History.arrivals (.opened connection :: rest) :=
    List.mem_filterMap.mpr ⟨_, List.mem_cons_self, rfl⟩
  exact once.2.2 connection before connection now rfl

theorem Racing.eq_of_mem (racing : Racing history) {call other : HookCall}
    {one two : Connection} (made : call ∈ history) (about : call.connection? = some one)
    (made' : other ∈ history) (about' : other.connection? = some two) (same : one.id = two.id) :
    one = two :=
  racing.told_apart one (History.mem_connections_of_mem made about) two
    (History.mem_connections_of_mem made' about') same

/-- Who has not been opened is not being hung up. -/
theorem Racing.unmarked (racing : Racing history)
    (whole : history = past ++ .message sender text :: rest) (unopened : .opened sender ∉ past) :
    ((worldAfter configuration past).wire sender.id).closing = false := by
  by_contra marked
  obtain ⟨opener, opened, same⟩ := opened_of_closing (Bool.of_not_eq_false marked)
  have inside : HookCall.opened opener ∈ history := by simp [whole, opened]
  have speaks : HookCall.message sender text ∈ history := by simp [whole]
  exact unopened (racing.eq_of_mem inside rfl speaks rfl same ▸ opened)

/-! ## What waits -/

/-- What is said too early is kept in the session. -/
theorem TooEarly.kept (early : TooEarly configuration past sender text data)
    (unmarked : ((worldAfter configuration past).wire sender.id).closing = false) :
    (worldAfter configuration (past ++ [.message sender text])).session sender.session =
      ((worldAfter configuration past).session sender.session).enqueue sender.id data := by
  have sound := poisoned_worldAfter configuration past
  have nobody : ((worldAfter configuration past).session sender.session).otherMember sender.id =
      none := by
    rw [Session.otherMember, early.alone, List.find?_nil]
  have stored := World.session_after_self sound (.message sender text)
  rw [World.effect_of_notify sender early.said, if_neg (by simp [unmarked]), nobody] at stored
  rw [worldAfter_snoc]
  exact stored

theorem EarlyNotice.waits (racing : Racing history) (whole : history = past ++ rest)
    (notice : EarlyNotice configuration past sender data) :
    ((worldAfter configuration past).session sender.session).members = [] ∧
      ⟨sender.id, data⟩ ∈ ((worldAfter configuration past).session sender.session).pending := by
  obtain ⟨before, text, since, rfl, early, spares⟩ := notice
  rw [List.append_assoc, List.cons_append] at whole
  have kept := early.kept (racing.unmarked whole early.unopened)
  rw [List.append_cons]
  apply waits_while_spared _ _ spares
  · rw [kept, Session.enqueue, early.alone]
  · rw [kept, Session.enqueue]
    exact List.mem_append_right _ List.mem_cons_self

/-- An entry of a connection that is just being opened has come too early. -/
theorem Racing.earlyNotice (racing : Racing history)
    (whole : history = past ++ .opened connection :: rest) {entry : PendingEntry}
    (listed : entry ∈ ((worldAfter configuration past).session connection.session).pending)
    (own : entry.sender = connection.id) :
    EarlyNotice configuration past connection entry.payload := by
  have first := racing.opened_first whole
  have opens : HookCall.opened connection ∈ history := by simp [whole]
  -- A member would be the sender of the entry, so the connection would have been opened.
  have empty : ((worldAfter configuration past).session connection.session).members = [] := by
    apply List.eq_nil_iff_forall_not_mem.mpr
    intro member inside
    have opened := opened_of_member inside
    have same := ownEntries_worldAfter configuration past _ entry listed member inside
    have made : HookCall.opened member ∈ history := by simp [whole, opened]
    exact first (racing.eq_of_mem made rfl opens rfl (same.trans own) ▸ opened)
  obtain ⟨before, sender, text, since, rfl, source, home, said, alone, spares⟩ :=
    awaits_of_mem empty listed
  have speaks : HookCall.message sender text ∈ history := by simp [whole]
  obtain rfl := racing.eq_of_mem speaks rfl opens rfl (source.trans own)
  have unopened : .opened sender ∉ before := fun opened => first (by simp [opened])
  exact ⟨before, text, since, rfl, ⟨said, unopened, alone⟩, spares⟩

/-! ## What becomes of it -/

section

variable (racing : Racing history)

include racing

/-- Who is opened next takes what waits. -/
theorem EarlyNotice.heard_by_next (whole : history = past ++ rest)
    (notice : EarlyNotice configuration past sender data)
    (home : next.session = sender.session) :
    ⟨sender.id, data⟩ ∈ (worldAfter configuration past).heard (.opened next) next.id := by
  obtain ⟨empty, waits⟩ := notice.waits racing whole
  have attended := attended_worldAfter configuration past next.id
  rw [← home] at empty waits
  have room : ((worldAfter configuration past).session next.session).isFull = false := by
    rw [Session.isFull, empty]
    rfl
  rw [World.heard_opened (poisoned_worldAfter configuration past) room attended]
  exact List.mem_map.mpr ⟨_, waits, rfl⟩

/-- Who ends takes the session away. -/
theorem EarlyNotice.lost_with_end (whole : history = past ++ rest)
    (notice : EarlyNotice configuration past sender data)
    (home : next.session = sender.session) :
    (worldAfter configuration (past ++ [.closed next])).sessions sender.session = none := by
  obtain ⟨empty, -⟩ := notice.waits racing whole
  rw [← home] at empty ⊢
  rw [worldAfter_snoc]
  exact World.sessions_after_closed_of_empty (poisoned_worldAfter configuration past) empty

/-- Who hears itself is just being opened and has spoken too early. -/
theorem Racing.heard_by_self {heard : Heard} (listed : heard ∈ heardBy configuration history id)
    (same : heard.speaker = id) :
    ∃ past sender rest, sender.id = id ∧ history = past ++ .opened sender :: rest ∧
      EarlyNotice configuration past sender heard.data := by
  obtain ⟨past, call, rest, whole, now⟩ := World.exists_heard_of_mem listed
  obtain other | ⟨newcomer, rfl, rfl, entry, waits, rfl⟩ :=
    World.mem_heard (poisoned_worldAfter configuration past)
      (attended_worldAfter configuration past id) now
  · exact absurd same other
  · exact ⟨past, newcomer, rest, rfl, whole, racing.earlyNotice whole waits same⟩

theorem Racing.fate : FateOfEarlyNotices configuration history where
  heard_by_next _ _ _ _ _ whole notice home := notice.heard_by_next racing whole home
  lost_with_end _ _ _ _ _ whole notice home := notice.lost_with_end racing whole home
  heard_by_self _ _ listed same := racing.heard_by_self listed same

end

/-! ## Where others come first -/

namespace OthersComeFirst

variable (others : OthersComeFirst configuration history)
  (fate : FateOfEarlyNotices configuration history)

include others fate

theorem never_to_self {heard : Heard} (listed : heard ∈ heardBy configuration history id) :
    heard.speaker ≠ id := by
  intro same
  obtain ⟨past, sender, rest, -, whole, notice⟩ := fate.heard_by_self id heard listed same
  obtain ends | ⟨other, opens, apart⟩ := others past _ rest sender _ whole notice rfl
  · cases ends
  · exact apart (HookCall.opened.inj opens).symm

/-- The notice still waits when the other party is opened, since nobody was opened in the
session or has ended there before. -/
theorem delivered {other : Connection}
    (whole : history = past ++ .message sender text :: (since ++ .opened other :: rest))
    (early : TooEarly configuration past sender text data) (stays : .closed sender ∉ since)
    (home : other.session = sender.session)
    (first : ∀ newcomer, .opened newcomer ∈ since → newcomer.session = sender.session →
      newcomer = sender) :
    ⟨sender.id, data⟩ ∈
      (worldAfter configuration (past ++ .message sender text :: since)).heard
        (.opened other) other.id := by
  rcases spares_or_exists sender.session since with
    spares | ⟨front, call, back, rfl, spares, stirs⟩
  · have cut : history = (past ++ .message sender text :: since) ++ .opened other :: rest := by
      simp [whole]
    have notice : EarlyNotice configuration (past ++ .message sender text :: since) sender data :=
      ⟨past, text, since, rfl, early, spares⟩
    exact fate.heard_by_next _ other rest sender data cut notice home
  · have cut : history = (past ++ .message sender text :: front) ++
        call :: (back ++ .opened other :: rest) := by
      simp [whole]
    have notice : EarlyNotice configuration (past ++ .message sender text :: front) sender data :=
      ⟨past, text, front, rfl, early, spares⟩
    obtain rfl | ⟨newcomer, rfl, differs⟩ := others _ call _ sender data cut notice stirs
    · exact absurd (by simp) stays
    · exact absurd (first newcomer (by simp) stirs) differs

/-- Everything is then for the other party. -/
theorem kept : KeptForTheOther configuration history where
  never_to_self _ _ listed := others.never_to_self fate listed
  delivered _ _ _ _ _ _ _ whole early stays home _ first :=
    others.delivered fate whole early stays home first

end OthersComeFirst

/-- Notices that come too early are heard by whoever is opened next, or lost; they are kept
for the other party where the other party comes first. -/
theorem fate_of_early_notices (configuration : PeerConfiguration) (racing : Racing history) :
    FateOfEarlyNotices configuration history ∧
      (OthersComeFirst configuration history → KeptForTheOther configuration history) :=
  ⟨racing.fate, fun others => others.kept racing.fate⟩

/-- The first visitor of the room speaks before it is opened, and the second is opened
first. -/
def overtaken : History :=
  [.message (visitor 0 "room") (notice "1"), .opened (visitor 1 "room"),
    .opened (visitor 0 "room")]

theorem racing_overtaken : Racing overtaken where
  told_apart := by decide
  opened_once := by decide
  ends_last := by simp [overtaken]

theorem othersComeFirst_overtaken : OthersComeFirst default overtaken := by
  intro past call rest sender data whole notice stirs
  obtain ⟨before, text, since, rfl, early, spares⟩ := notice
  rw [List.append_assoc, List.cons_append] at whole
  cases before with
  | nil =>
      obtain ⟨first, later⟩ := List.cons.inj whole
      cases first
      cases since with
      | nil =>
          cases later
          exact .inr ⟨_, rfl, by decide⟩
      | cons opening since =>
          obtain ⟨rfl, -⟩ := List.cons.inj later
          exact absurd rfl (spares_cons.mp spares).1
  | cons first before =>
      obtain ⟨-, later⟩ := List.cons.inj whole
      have listed : HookCall.message sender text ∈
          [.opened (visitor 1 "room"), .opened (visitor 0 "room")] := by
        rw [later]
        simp
      simp at listed

theorem overtaken_kept : Racing overtaken ∧ OthersComeFirst default overtaken ∧
    FateOfEarlyNotices default overtaken ∧ KeptForTheOther default overtaken ∧
      heardBy default overtaken (visitor 1 "room").id = [⟨(visitor 0 "room").id, .ofText "1"⟩] :=
  have law := fate_of_early_notices default racing_overtaken
  ⟨racing_overtaken, othersComeFirst_overtaken, law.1, law.2 othersComeFirst_overtaken, by decide⟩

/-- The first visitor of the room speaks before it is opened, and is opened first. -/
def selfish : History :=
  [.message (visitor 0 "room") (notice "1"), .opened (visitor 0 "room"),
    .opened (visitor 1 "room")]

/-- It hears itself, and the second visitor hears nothing. -/
theorem selfish_not_kept : Racing selfish ∧ ¬ KeptForTheOther default selfish ∧
    heardBy default selfish (visitor 0 "room").id = [⟨(visitor 0 "room").id, .ofText "1"⟩] ∧
      heardBy default selfish (visitor 1 "room").id = [] := by
  have own : heardBy default selfish (visitor 0 "room").id =
      [⟨(visitor 0 "room").id, .ofText "1"⟩] := by decide
  refine ⟨⟨by decide, by decide, by simp [selfish]⟩, fun kept => ?_, own, by decide⟩
  apply kept.never_to_self (visitor 0 "room").id ⟨(visitor 0 "room").id, .ofText "1"⟩ _ rfl
  rw [own]
  exact List.mem_cons_self

end

end Rendezvous
