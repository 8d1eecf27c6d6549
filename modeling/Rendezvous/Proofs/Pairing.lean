/-
# Partners

Two connections are partners if at some point of a history they were the two members
of one session. While the transport keeps its promise partners come together once and
part once: as soon as one of the two has ended, both are out for good.
-/

import Rendezvous.Proofs.Membership

namespace Rendezvous

open Function (update)

/-- Two connections were paired at some point of a history. -/
def Partners (configuration : PeerConfiguration) (history : History)
    (first second : Connection) : Prop :=
  ∃ past, past <+: history ∧ (worldAfter configuration past).Paired first second

/-- Two connections have parted: one of them has ended and neither is a member. -/
structure Parted (configuration : PeerConfiguration) (past : History)
    (first second : Connection) : Prop where
  ended : .closed first ∈ past ∨ .closed second ∈ past
  left : ¬ (worldAfter configuration past).Member first
  right : ¬ (worldAfter configuration past).Member second

namespace World

variable {world before after : World Relay} {first second : Connection}

/-- Where two are paired nobody waits alone. -/
theorem Paired.ne_lone (together : world.Paired first second) (staged : world.Staged)
    {member : Connection} {said : List Payload} :
    world.sessions first.session ≠ some (.lone member said) := by
  intro waiting
  rcases (together.sessions_eq staged).2 with present | present
  · rw [waiting] at present
    exact Session.lone_ne_pair (Option.some.inj present)
  · rw [waiting] at present
    exact Session.lone_ne_pair (Option.some.inj present)

/-- Two stay paired while nothing happens to their session. -/
theorem Paired.of_sessions_eq (together : before.Paired first second)
    (staged : before.Staged)
    (same : after.sessions first.session = before.sessions first.session) :
    after.Paired first second := by
  refine ⟨together.1, first.session, ?_⟩
  rcases (together.sessions_eq staged).2 with present | present
  · exact ⟨_, same.trans present, by simp, by simp⟩
  · exact ⟨_, same.trans present, by simp, by simp⟩

/-- A newcomer meets the one who has waited for it and gets all that it has said. -/
structure Meets (before after : World Relay) (call : HookCall) (host newcomer : Connection)
    (said : List Payload) : Prop where
  call : call = .opened newcomer
  waiting : before.sessions host.session = some (.lone host said)
  wire : after.wire = update before.wire newcomer.id
    ((before.wire newcomer.id).carrying (said.map .notify))

end World

namespace Move

variable {before after : World Relay} {call : HookCall} {result : Except SignalingError Unit}
  {first second : Connection}

/-- Two stay paired until one of them ends. -/
theorem paired_after (move : Move before after call result) (staged : before.Staged)
    (together : before.Paired first second) (stays : call ≠ .closed first)
    (stays' : call ≠ .closed second) : after.Paired first second := by
  apply together.of_sessions_eq staged
  have elsewhere {id : SessionId} {stored : Option Session}
      (sessions : after.sessions = update before.sessions id stored)
      (other : first.session ≠ id) :
      after.sessions first.session = before.sessions first.session := by
    rw [sessions, Function.update_of_ne other]
  cases move with
  | idle _ sessions _ | answered _ sessions _ | passed _ _ sessions _ => rw [sessions]
  | entered vacant sessions _ =>
      apply elsewhere sessions
      intro same
      obtain ⟨session, present, -⟩ := together.member staged
      rw [same, vacant] at present
      cases present
  | met waiting _ _ sessions _ =>
      apply elsewhere sessions
      intro same
      exact together.ne_lone staged (same ▸ waiting)
  | kept _ waiting sessions _ =>
      apply elsewhere sessions
      intro same
      exact together.ne_lone staged (same ▸ waiting)
  | left waiting sessions _ =>
      apply elsewhere sessions
      intro same
      exact together.ne_lone staged (same ▸ waiting)
  | @parted leaver peer apart sessions _ =>
      apply elsewhere sessions
      intro same
      have inside := apart.member staged
      rcases (together.mem_iff staged same.symm).mp inside with rfl | rfl
      · exact stays rfl
      · exact stays' rfl

/-- Two become paired when one of them comes in and the other has waited. -/
theorem paired_before (move : Move before after call result) (staged : before.Staged)
    (together : after.Paired first second) :
    before.Paired first second ∨
      (∃ said, before.Meets after call first second said) ∨
      ∃ said, before.Meets after call second first said := by
  have staged' := move.staged staged
  obtain ⟨left, right, present, either⟩ : ∃ left right,
      after.sessions first.session = some (.pair left right) ∧
        (left = first ∧ right = second ∨ left = second ∧ right = first) := by
    rcases (together.sessions_eq staged').2 with present | present
    · exact ⟨first, second, present, .inl ⟨rfl, rfl⟩⟩
    · exact ⟨second, first, present, .inr ⟨rfl, rfl⟩⟩
  have stayed (here : before.sessions first.session = some (.pair left right)) :
      before.Paired first second :=
    together.of_sessions_eq staged' (here.trans present.symm)
  cases move with
  | idle _ sessions _ | answered _ sessions _ | passed _ _ sessions _ =>
      left
      apply stayed
      rwa [← sessions]
  | entered _ sessions _ | kept _ _ sessions _ =>
      rcases World.stored_of_update sessions present with ⟨-, stored⟩ | ⟨-, here⟩
      · exact absurd (Option.some.inj stored) Session.lone_ne_pair
      · exact .inl (stayed here)
  | left _ sessions _ | parted _ sessions _ =>
      rcases World.stored_of_update sessions present with ⟨-, stored⟩ | ⟨-, here⟩
      · cases stored
      · exact .inl (stayed here)
  | @met newcomer host said waiting home differ sessions wire =>
      rcases World.stored_of_update sessions present with ⟨-, stored⟩ | ⟨-, here⟩
      · right
        obtain ⟨rfl, rfl⟩ := Session.pair_inj (Option.some.inj stored)
        rcases either with ⟨rfl, rfl⟩ | ⟨rfl, rfl⟩
        · exact .inl ⟨said, rfl, home ▸ waiting, wire⟩
        · exact .inr ⟨said, rfl, home ▸ waiting, wire⟩
      · exact .inl (stayed here)

end Move

/-! ## Along a history -/

namespace Partners

variable {configuration : PeerConfiguration} {past : History} {call : HookCall}
  {first second : Connection}

theorem snoc_iff :
    Partners configuration (past ++ [call]) first second ↔
      Partners configuration past first second ∨
        (worldAfter configuration (past ++ [call])).Paired first second := by
  constructor
  · rintro ⟨earlier, found, together⟩
    rcases List.prefix_concat_iff.mp found with rfl | found
    · exact .inr together
    · exact .inl ⟨earlier, found, together⟩
  · rintro (⟨earlier, found, together⟩ | together)
    · exact ⟨earlier, found.trans (List.prefix_append past [call]), together⟩
    · exact ⟨past ++ [call], List.prefix_rfl, together⟩

theorem symm (partners : Partners configuration past first second) :
    Partners configuration past second first := by
  obtain ⟨earlier, found, together⟩ := partners
  exact ⟨earlier, found, together.symm⟩

theorem mem_connections (orderly : Orderly configuration past)
    (partners : Partners configuration past first second) : first ∈ past.connections := by
  obtain ⟨earlier, ⟨rest, rfl⟩, together⟩ := partners
  have settled := orderly.of_append.settled
  rw [History.connections_append]
  apply List.mem_append_left
  exact settled.known_of_member (together.member settled.staged)

end Partners

variable {configuration : PeerConfiguration} {past : History} {call : HookCall}
  {first second : Connection}

/-- Who is known and no member is not taken in again. -/
theorem Settled.not_member_after (settled : Settled configuration past)
    (orderly : Orderly configuration past) (promised : Promised configuration past call)
    {connection : Connection} (known : connection ∈ past.connections)
    (outside : ¬ (worldAfter configuration past).Member connection) :
    ¬ (worldAfter configuration (past ++ [call])).Member connection := by
  intro member
  rw [worldAfter_snoc] at member
  have move := settled.moves orderly promised
  rcases (move.member_iff settled.staged connection).mp member with ⟨before, -⟩ | ⟨rfl, -⟩
  · exact outside before
  · exact promised connection known rfl

theorem Parted.snoc (parted : Parted configuration past first second)
    (settled : Settled configuration past) (orderly : Orderly configuration past)
    (promised : Promised configuration past call)
    (known : first ∈ past.connections) (known' : second ∈ past.connections) :
    Parted configuration (past ++ [call]) first second where
  ended := parted.ended.imp (List.mem_append_left [call]) (List.mem_append_left [call])
  left := settled.not_member_after orderly promised known parted.left
  right := settled.not_member_after orderly promised known' parted.right

/-- When one of two that are paired ends, they part. -/
theorem Parted.of_closed (settled : Settled configuration past)
    (orderly : Orderly configuration past) (promised : Promised configuration past call)
    (together : (worldAfter configuration past).Paired first second)
    (ends : call = .closed first ∨ call = .closed second) :
    Parted configuration (past ++ [call]) first second := by
  have move := settled.moves orderly promised
  have outside : ∀ connection, connection = first ∨ connection = second →
      ¬ (worldAfter configuration (past ++ [call])).Member connection := by
    intro connection either member
    rw [worldAfter_snoc, move.member_iff settled.staged] at member
    rcases member with ⟨-, stays, alone⟩ | ⟨rfl, -⟩
    · rcases either with rfl | rfl <;> rcases ends with rfl | rfl
      · exact stays rfl
      · exact alone _ rfl together.symm
      · exact alone _ rfl together
      · exact stays rfl
    · rcases ends with ends | ends <;> cases ends
  refine ⟨?_, outside first (.inl rfl), outside second (.inr rfl)⟩
  exact ends.imp (fun same => by simp [same]) fun same => by simp [same]

/-- Partners are paired, or they have parted. -/
theorem Partners.paired_or_parted (orderly : Orderly configuration past)
    (partners : Partners configuration past first second) :
    (worldAfter configuration past).Paired first second ∨
      Parted configuration past first second := by
  induction orderly with
  | nil =>
      obtain ⟨earlier, found, together⟩ := partners
      obtain rfl := List.prefix_nil.mp found
      exact .inl together
  | @snoc past call before promised ih =>
      rcases Partners.snoc_iff.mp partners with earlier | together
      · have settled := before.settled
        rcases ih earlier with together | parted
        · by_cases ends : call = .closed first ∨ call = .closed second
          · exact .inr (.of_closed settled before promised together ends)
          · left
            obtain ⟨stays, stays'⟩ := not_or.mp ends
            rw [worldAfter_snoc]
            have move := settled.moves before promised
            exact move.paired_after settled.staged together stays stays'
        · have known := earlier.mem_connections before
          have known' := earlier.symm.mem_connections before
          exact .inr (parted.snoc settled before promised known known')
      · exact .inl together

/-- Nobody has two partners. -/
theorem Partners.unique (orderly : Orderly configuration past) {other : Connection}
    (partners : Partners configuration past first second)
    (others : Partners configuration past other second) : first = other := by
  -- At the later of the two meetings the earlier one has not come to an end.
  have later {one two : Connection} {early late : History} (before : early <+: late)
      (found : late <+: past) (met : (worldAfter configuration early).Paired one second)
      (meets : (worldAfter configuration late).Paired two second) : one = two := by
    have here := orderly.of_prefix found
    have staged := here.settled.staged
    have earlier : Partners configuration late one second := ⟨early, before, met⟩
    rcases earlier.paired_or_parted here with together | parted
    · exact together.symm.eq_of_paired meets.symm staged
    · exact absurd (meets.symm.member staged) parted.right
  obtain ⟨early, found, met⟩ := partners
  obtain ⟨late, found', meets⟩ := others
  rcases List.prefix_or_prefix_of_prefix found found' with before | before
  · exact later before found' met meets
  · exact (later before found meets met).symm

end Rendezvous
