/-
# Reports are true

The reports of a server are all that is known of what it did. Read from the beginning they
tell how the world came about: a call that is reported was made in the world that was
reached by then, its result is what the hooks answered there, and what the hooks made of
that world is the world that was reached next. Between the calls a server only sees to the
wires.
-/

import Rendezvous.Proofs.Imitation

namespace Rendezvous

variable {σ : Type} {hooks : Hooks σ} {first second third : World σ}
  {reports more before later : List Report}

/-- What a server does to a world without its hooks, and what it reports of that. -/
inductive Tended : World σ → List Report → World σ → Prop
  | answered (id : ConnectionId) (reception : Reception) (world : World σ) :
    Tended world [.answered id reception] world
  | delivered (id : ConnectionId) (world : World σ) :
    Tended world ((world.wires.collect id).1.map (.delivered id))
      (world.withWires (world.wires.collect id).2)
  | letGo (id : ConnectionId) (farewell : Farewell) (world : World σ) :
    Tended world (Service.letGo id farewell world).2 (Service.letGo id farewell world).1
  | marked (id : ConnectionId) (world : World σ) :
    Tended world [] (world.withWires (world.wires.close id))

/-- From one world another is reached with some reports. -/
inductive Reached (hooks : Hooks σ) (first : World σ) : List Report → World σ → Prop
  | start : Reached hooks first [] first
  | called {reports : List Report} {world : World σ} (so_far : Reached hooks first reports world)
    (id : ConnectionId) (call : HookCall) :
    Reached hooks first (reports ++ [.called id call (hooks.answer call world).result])
      (hooks.answer call world).world
  | tended {reports more : List Report} {world later : World σ}
    (so_far : Reached hooks first reports world) (tended : Tended world more later) :
    Reached hooks first (reports ++ more) later

/-- No call is made without the hooks. -/
theorem Tended.not_called (tended : Tended first more second) (id : ConnectionId)
    (call : HookCall) (result : Except SignalingError Unit) : .called id call result ∉ more := by
  have nothing : told id more = [] := by
    cases tended with
    | answered about reception | marked about => rfl
    | delivered about => exact told_map_delivered about id _
    | letGo about farewell => exact told_letGo about id farewell first
  intro listed
  have silent := List.filterMap_eq_nil_iff.mp nothing _ listed
  simp [Report.told?] at silent

namespace Reached

theorem of_call (id : ConnectionId) (call : HookCall) (world : World σ) :
    Reached hooks world [.called id call (hooks.answer call world).result]
      (hooks.answer call world).world :=
  .called .start id call

theorem of_tended (tended : Tended first more second) : Reached hooks first more second :=
  .tended .start tended

theorem trans (reached : Reached hooks first reports second)
    (further : Reached hooks second more third) :
    Reached hooks first (reports ++ more) third := by
  induction further with
  | start =>
      rw [List.append_nil]
      exact reached
  | called _ id call ih =>
      rw [← List.append_assoc]
      exact .called ih id call
  | tended _ tended ih =>
      rw [← List.append_assoc]
      exact .tended ih tended

/-- What is reported of a call is what the hooks answered in the world that was reached, and
what is reported next goes on from there. -/
theorem exists_of_called {id : ConnectionId} {call : HookCall}
    {result : Except SignalingError Unit}
    (reached : Reached hooks first (before ++ .called id call result :: later) second) :
    ∃ world, Reached hooks first before world ∧ result = (hooks.answer call world).result ∧
      Reached hooks (hooks.answer call world).world later second := by
  generalize split : before ++ .called id call result :: later = reports at reached
  induction reached generalizing later with
  | start => simp at split
  | @called earlier world so_far about last ih =>
      rcases List.eq_nil_or_concat later with rfl | ⟨rest, report, rfl⟩
      · obtain ⟨rfl, same⟩ := List.append_inj' split rfl
        cases same
        exact ⟨world, so_far, rfl, .start⟩
      · rw [List.concat_eq_append, ← List.cons_append, ← List.append_assoc] at split
        obtain ⟨same, here⟩ := List.append_inj' split rfl
        obtain ⟨reached, here_before, answer, on⟩ := ih same
        cases here
        exact ⟨reached, here_before, answer, List.concat_eq_append ▸ .called on about last⟩
  | @tended earlier more world after so_far tended ih =>
      obtain ⟨rest, rfl, ahead⟩ | ⟨rest, -, tail⟩ := List.append_eq_append_iff.mp split
      · -- What was tended came after the call, since it has no call in it.
        cases rest with
        | nil =>
            have listed : .called id call result ∈ [] ++ more := ahead ▸ List.mem_cons_self
            exact absurd listed (tended.not_called id call result)
        | cons report rest =>
            obtain ⟨rfl, rfl⟩ := List.cons.inj ahead
            obtain ⟨reached, here_before, answer, on⟩ := ih rfl
            exact ⟨reached, here_before, answer, .tended on tended⟩
      · exact absurd (tail ▸ List.mem_append_right rest List.mem_cons_self)
          (tended.not_called id call result)

end Reached

namespace Service

variable (service : Service σ)

/-! ## Turns -/

theorem reached_answerKnock (knock : Knock) (server : BusyServer σ) :
    Reached service.hooks server.world (service.answerKnock knock server).2
      (service.answerKnock knock server).1.world := by
  have answered (reception : Reception) (world : World σ) : Reached service.hooks world
      [.answered ⟨server.requests, knock.label⟩ reception] world :=
    .of_tended (.answered _ reception world)
  unfold answerKnock
  split
  · exact answered _ _
  · split
    · exact answered _ _
    · next session admitted =>
      have asked : Reached service.hooks server.world _ _ :=
        .of_call ⟨server.requests, knock.label⟩ (.handshake session) server.world
      dsimp only [call]
      split
      · exact asked.trans (answered _ _)
      · exact asked.trans (answered _ _)

theorem reached_openSocket (id : ConnectionId) (connection : Connection)
    (server : BusyServer σ) :
    Reached service.hooks server.world (service.openSocket id connection server).2
      (service.openSocket id connection server).1.world := by
  have asked : Reached service.hooks server.world _ _ :=
    .of_call id (.opened connection) server.world
  dsimp only [openSocket, call]
  split
  · exact asked
  · exact asked.trans (.of_tended (.letGo id _ _))

theorem reached_readText (id : ConnectionId) (connection : Connection) (content : Octets)
    (server : BusyServer σ) :
    Reached service.hooks server.world (service.readText id connection content server).2
      (service.readText id connection content server).1.world := by
  have heard : Reached service.hooks server.world _ _ :=
    .of_call id (.message connection content) server.world
  dsimp only [readText, call]
  split
  · exact heard
  · exact heard

theorem reached_concludeSocket (id : ConnectionId) (connection : Connection)
    (farewell : Farewell) (server : BusyServer σ) :
    Reached service.hooks server.world (service.concludeSocket id connection farewell server).2
      (service.concludeSocket id connection farewell server).1.world := by
  have told : Reached service.hooks server.world _ _ :=
    .of_call id (.closed connection) server.world
  exact told.trans (.of_tended (.letGo id farewell _))

theorem reached_proceed (id : ConnectionId) (task : Task) (server : BusyServer σ)
    (next : Turn) :
    Reached service.hooks server.world (service.proceed id task server next).2
      (service.proceed id task server next).1.world := by
  obtain ⟨connection, phase⟩ := task
  cases next with
  | enter about =>
      cases phase with
      | accepted => exact service.reached_openSocket id connection server
      | reading | ending farewell => exact .start
  | hear about content =>
      cases phase with
      | reading => exact service.reached_readText id connection content server
      | accepted | ending farewell => exact .start
  | conclude about =>
      cases phase with
      | ending farewell => exact service.reached_concludeSocket id connection farewell server
      | accepted | reading => exact .start
  | notice about =>
      cases phase with
      | reading =>
          simp only [proceed]
          split <;> exact .start
      | accepted | ending farewell => exact .start
  | withdraw about | stop about farewell => cases phase <;> exact .start
  | knock knock | ignore about | mark about | deliver about => exact .start

theorem reached_turn (server : BusyServer σ) (next : Turn) :
    Reached service.hooks server.world (service.turn server next).2
      (service.turn server next).1.world := by
  cases next with
  | knock knock => exact service.reached_answerKnock knock server
  | mark id => exact .of_tended (.marked id server.world)
  | deliver id => exact .of_tended (.delivered id server.world)
  | enter id | withdraw id | hear id content | ignore id | stop id farewell | notice id
  | conclude id =>
      simp only [turn]
      split
      · exact .start
      · exact service.reached_proceed _ _ server _

/-- What is reported of some turns is what happened in them, -/
theorem reached_takeTurns (server : BusyServer σ) (turns : List Turn) :
    Reached service.hooks server.world (service.takeTurns server turns).2
      (service.takeTurns server turns).1.world := by
  induction turns generalizing server with
  | nil => exact .start
  | cons next rest ih => exact (service.reached_turn server next).trans (ih _)

/-- and so is what is reported of a run. -/
theorem reached_run (world : World σ) (actions : List ClientAction) :
    Reached service.hooks world (service.run (.start world) actions).2
      (service.run (.start world) actions).1.world := by
  obtain ⟨turns, -, done⟩ := exists_turns_run service world actions
  have reached := service.reached_takeTurns (.start world) turns
  rwa [done.reports, done.agrees.world] at reached

end Service

end Rendezvous
