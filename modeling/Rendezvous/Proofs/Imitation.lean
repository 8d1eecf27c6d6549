/-
# A run in turns

A server that does one thing after another does nothing that a busy server could not do:
every run is some row of turns, in which a request is at once followed by the opening of
its socket, and the end of a socket by the call that tells of it. So what holds of turns in
any order holds of every run.
-/

import Rendezvous.Proofs.Turns

namespace Rendezvous

/-- The request that an action of a client is, if it is one. -/
def ClientAction.knock? : ClientAction → Option Knock
  | .connect label address request => some ⟨label, address, request⟩
  | .text _ _ | .aside _ | .close _ _ | .vanish _ | .garbage _ => none

/-- The requests among some actions; each has its place as its number. -/
def requested (actions : List ClientAction) : List Knock :=
  actions.filterMap ClientAction.knock?

variable {σ : Type}

/-- A busy server is where a server is that does one thing after another: every open socket
is read from, and nothing else is under way. -/
structure Agrees (busy : BusyServer σ) (server : Server σ) : Prop where
  world : busy.world = server.world
  requests : busy.requests = server.requests
  tasks : ∀ id, busy.tasks.get? id = (server.socket? id).map (Task.mk · .reading)
  numbered : server.Numbered

theorem agrees_start (world : World σ) : Agrees (.start world) (.start world) :=
  ⟨rfl, rfl, fun _ => rfl, Server.numbered_start world⟩

/-- What comes of some turns is what came of one thing after another. -/
structure Follows (service : Service σ) (busy : BusyServer σ) (turns : List Turn)
    (outcome : Server σ × List Report) : Prop where
  agrees : Agrees (service.takeTurns busy turns).1 outcome.1
  reports : (service.takeTurns busy turns).2 = outcome.2

variable {service : Service σ} {busy after : BusyServer σ} {server done : Server σ}

namespace Follows

variable {first later : List Report} {turns rest : List Turn}

theorem cons {next : Turn} (turned : service.turn busy next = (after, first))
    (others : Follows service after rest (done, later)) :
    Follows service busy (next :: rest) (done, first ++ later) := by
  constructor
  · rw [Service.takeTurns, turned]
    exact others.agrees
  · rw [Service.takeTurns, turned]
    exact congrArg (first ++ ·) others.reports

/-- Nothing is reported of the end of a socket before the hooks hear of it. -/
theorem cons_nil {next : Turn} {outcome : Server σ × List Report}
    (turned : service.turn busy next = (after, [])) (others : Follows service after rest outcome) :
    Follows service busy (next :: rest) outcome :=
  .cons turned others

theorem append (some_turns : Follows service busy turns (server, first))
    (others : Follows service (service.takeTurns busy turns).1 rest (done, later)) :
    Follows service busy (turns ++ rest) (done, first ++ later) := by
  constructor
  · rw [Service.takeTurns_append]
    exact others.agrees
  · rw [Service.takeTurns_append]
    exact congr (congrArg _ some_turns.reports) others.reports

end Follows

theorem Agrees.nil (agrees : Agrees busy server) : Follows service busy [] (server, []) :=
  ⟨agrees, rfl⟩

theorem Agrees.turn {next : Turn} {reports : List Report} (agrees : Agrees after server)
    (turned : service.turn busy next = (after, reports)) :
    Follows service busy [next] (server, reports) := by
  rw [← List.append_nil reports]
  exact .cons turned agrees.nil

theorem Server.socket?_finish (service : Service σ) (socket : Connection) (farewell : Farewell)
    (server : Server σ) (id : ConnectionId) :
    (service.finish socket farewell server).1.socket? id =
      if id = socket.id then none else server.socket? id := by
  unfold Server.socket?
  rw [Service.sockets_finish, List.find?_filter]
  split
  · next same =>
    rw [List.find?_eq_none]
    intro other _
    simp [same]
  · next differs =>
    congr 1
    funext other
    by_cases same : other.id = id
    · simp [same, differs]
    · simp [same]

/-! ## Settling -/

namespace Agrees

variable {socket : Connection} {farewell : Farewell}

theorem reading (agrees : Agrees busy server) (open_ : socket ∈ server.sockets) :
    busy.tasks.get? socket.id = some ⟨socket, .reading⟩ := by
  rw [agrees.tasks, (Server.socket?_eq_some_iff agrees.numbered).mpr ⟨open_, rfl⟩]
  rfl

/-- After the end of a socket the call that tells of it is left to do. -/
theorem conclude (agrees : Agrees busy server) (service : Service σ) (socket : Connection)
    (farewell : Farewell) :
    Follows service { busy with tasks := busy.tasks.set socket.id ⟨socket, .ending farewell⟩ }
      [.conclude socket.id] (service.finish socket farewell server) := by
  have here : (busy.tasks.set socket.id ⟨socket, .ending farewell⟩).get? socket.id =
      some ⟨socket, .ending farewell⟩ := Directory.get?_set_self _ _ _
  have still : Agrees
      ⟨(service.finish socket farewell server).1.world,
        (busy.tasks.set socket.id ⟨socket, .ending farewell⟩).erase socket.id, busy.requests⟩
      (service.finish socket farewell server).1 := by
    constructor
    case world => rfl
    case requests => exact agrees.requests
    case tasks =>
      intro id
      rw [Server.socket?_finish, Directory.get?_erase, Directory.get?_set]
      split
      · rfl
      · exact agrees.tasks id
    case numbered => exact agrees.numbered.congr List.filter_sublist rfl
  apply still.turn
  simp only [Service.turn, here, Service.proceed, Service.concludeSocket, agrees.world]
  rfl

/-- The client of an open socket may put an end to it, -/
theorem finish (agrees : Agrees busy server) (open_ : socket ∈ server.sockets)
    (farewell : Farewell) :
    Follows service busy [.stop socket.id farewell, .conclude socket.id]
      (service.finish socket farewell server) := by
  refine .cons_nil ?_ (agrees.conclude service socket farewell)
  simp only [Service.turn, agrees.reading open_, Service.proceed]

/-- or the hooks, by a mark. -/
theorem hangUp (agrees : Agrees busy server) (open_ : socket ∈ server.sockets)
    (marked : server.world.wires.isClosing socket.id = true) :
    Follows service busy [.notice socket.id, .conclude socket.id]
      (service.finish socket (.frame (some .peerLeft)) server) := by
  refine .cons_nil ?_ (agrees.conclude service socket _)
  simp only [Service.turn, agrees.reading open_, Service.proceed, agrees.world, marked, if_true]

theorem deliver (agrees : Agrees busy server) (id : ConnectionId) :
    Follows service busy [.deliver id] (server.deliverTo id) := by
  have still : Agrees ⟨(server.deliverTo id).1.world, busy.tasks, busy.requests⟩
      (server.deliverTo id).1 :=
    ⟨rfl, agrees.requests, agrees.tasks, agrees.numbered.congr (.refl _) rfl⟩
  apply still.turn
  simp only [Service.turn, agrees.world]
  rfl

theorem deliverAll (agrees : Agrees busy server) (sockets : List Connection) :
    ∃ turns, knocks turns = [] ∧ Follows service busy turns (server.deliverAll sockets) := by
  induction sockets generalizing busy server with
  | nil => exact ⟨[], rfl, agrees.nil⟩
  | cons socket rest ih =>
      have first : Follows service busy _ _ := agrees.deliver socket.id
      obtain ⟨turns, quiet, later⟩ := ih first.agrees
      exact ⟨.deliver socket.id :: turns, quiet, first.append later⟩

/-- What is left to do is done in turns, -/
theorem settleWithin (agrees : Agrees busy server) (fuel : Nat) :
    ∃ turns, knocks turns = [] ∧
      Follows service busy turns (service.settleWithin fuel server) := by
  induction fuel generalizing busy server with
  | zero => exact agrees.deliverAll server.sockets
  | succ fuel ih =>
      unfold Service.settleWithin
      cases found : server.sockets.find? fun socket =>
          server.world.wires.isClosing socket.id with
      | none => exact agrees.deliverAll server.sockets
      | some socket =>
          have marked : server.world.wires.isClosing socket.id = true := by
            simpa using List.find?_some found
          have ended : Follows service busy _ _ :=
            agrees.hangUp (List.mem_of_find?_eq_some found) marked
          obtain ⟨turns, quiet, later⟩ := ih ended.agrees
          exact ⟨.notice socket.id :: .conclude socket.id :: turns, quiet, ended.append later⟩

/-! ## Actions -/

/-- A text is read, and where the hook fails the socket is ended. -/
theorem text (agrees : Agrees busy server) (open_ : socket ∈ server.sockets)
    (content : Octets) :
    ∃ turns, knocks turns = [] ∧
      Follows service busy turns (service.react socket server (.text socket.id content)) := by
  generalize made : service.hooks.answer (.message socket content) server.world = outcome
  have still : Agrees { busy with world := outcome.world }
      { server with world := outcome.world } :=
    ⟨rfl, agrees.requests, agrees.tasks, agrees.numbered.congr (.refl _) rfl⟩
  have heard : service.turn busy (.hear socket.id content) =
      service.readText socket.id socket content busy := by
    simp only [Service.turn, agrees.reading open_, Service.proceed]
  simp only [Service.readText, Service.call, agrees.world, made] at heard
  simp only [Service.react, Service.call, made]
  cases answer : outcome.result with
  | ok =>
      rw [answer] at heard
      exact ⟨[.hear socket.id content], rfl, still.turn heard⟩
  | error error =>
      rw [answer] at heard
      exact ⟨[.hear socket.id content, .conclude socket.id], rfl,
        .cons heard (still.conclude service socket _)⟩

/-- and so is what an action of the client of an open socket leads to at once. -/
theorem react (agrees : Agrees busy server) (open_ : socket ∈ server.sockets)
    (action : ClientAction) :
    ∃ turns, knocks turns = [] ∧
      Follows service busy turns (service.react socket server action) := by
  cases action with
  | close id frame => exact ⟨_, rfl, agrees.finish open_ (.echoed frame)⟩
  | vanish id => exact ⟨_, rfl, agrees.finish open_ .vanished⟩
  | garbage id => exact ⟨_, rfl, agrees.finish open_ (.frame none)⟩
  | aside id | connect label address request => exact ⟨[], rfl, agrees.nil⟩
  | text id content => exact agrees.text open_ content

/-- The socket of an accepted request is opened next. -/
theorem turn_enter (service : Service σ) (busy : BusyServer σ) (connection : Connection)
    (tasks : Directory ConnectionId Task)
    (accepted : busy.tasks = tasks.set connection.id ⟨connection, .accepted⟩) :
    service.turn busy (.enter connection.id) =
      service.openSocket connection.id connection busy := by
  simp only [Service.turn, accepted, Directory.get?_set_self, Service.proceed]

/-- A request is counted, whatever comes of it. -/
theorem counted (agrees : Agrees busy server) (world : World σ) :
    Agrees ⟨world, busy.tasks, server.requests + 1⟩
      ⟨world, server.sockets, server.requests + 1⟩ where
  world := rfl
  requests := rfl
  tasks := agrees.tasks
  numbered := agrees.numbered.counted world

theorem fresh (agrees : Agrees busy server) {id : ConnectionId}
    (last : id.serial = server.requests) : busy.tasks.get? id = none := by
  rw [agrees.tasks, agrees.numbered.socket?_eq_none (Nat.le_of_eq last.symm)]
  rfl

/-- A socket is opened and read from, -/
theorem opened (agrees : Agrees busy server) (connection : Connection)
    (last : connection.id.serial = server.requests) (world : World σ) (phase : Phase) :
    Agrees
      ⟨world, (busy.tasks.set connection.id ⟨connection, phase⟩).set connection.id
        ⟨connection, .reading⟩, server.requests + 1⟩
      ⟨world, server.sockets ++ [connection], server.requests + 1⟩ where
  world := rfl
  requests := rfl
  tasks id := by
    have nobody := agrees.numbered.socket?_eq_none (Nat.le_of_eq last.symm)
    unfold Server.socket? at nobody
    rw [Directory.get?_set, Directory.get?_set, Server.socket?, List.find?_append]
    split
    · next same =>
      subst same
      rw [nobody]
      simp
    · next differs =>
      rw [agrees.tasks, Server.socket?]
      simp [Ne.symm differs]
  numbered := agrees.numbered.opened world last

/-- or let go again. -/
theorem turnedAway (agrees : Agrees busy server) (connection : Connection)
    (last : connection.id.serial = server.requests) (world : World σ) (phase : Phase) :
    Agrees
      ⟨world, (busy.tasks.set connection.id ⟨connection, phase⟩).erase connection.id,
        server.requests + 1⟩
      ⟨world, server.sockets, server.requests + 1⟩ where
  world := rfl
  requests := rfl
  tasks id := by
    rw [Directory.get?_erase, Directory.get?_set]
    split
    · next same =>
      subst same
      exact (agrees.fresh last).symm.trans (agrees.tasks connection.id)
    · exact agrees.tasks id
  numbered := agrees.numbered.counted world

theorem connect (agrees : Agrees busy server) (label : String) (address : SocketAddress)
    (request : UpgradeRequest) :
    ∃ turns, knocks turns = [⟨label, address, request⟩] ∧
      Follows service busy turns (service.connect label address request server) := by
  have knocked : service.turn busy (.knock ⟨label, address, request⟩) =
    service.answerKnock ⟨label, address, request⟩ busy := rfl
  simp only [Service.answerKnock, agrees.requests, agrees.world] at knocked
  unfold Service.connect Service.receive
  split
  · next other =>
    rw [if_pos other] at knocked
    exact ⟨_, rfl, (agrees.counted _).turn knocked⟩
  · next asks =>
    rw [if_neg asks] at knocked
    cases admission : request.admission service.policy with
    | error error =>
        rw [admission] at knocked
        exact ⟨_, rfl, (agrees.counted _).turn knocked⟩
    | ok session =>
        simp only [admission, Service.call] at knocked
        dsimp only [Service.call]
        -- Nothing is known about the hooks: each of their answers is taken as it comes.
        generalize service.hooks.answer (.handshake session) server.world = asked at knocked ⊢
        cases wanted : asked.result with
        | error error =>
            rw [wanted] at knocked
            exact ⟨_, rfl, (agrees.counted _).turn knocked⟩
        | ok =>
            rw [wanted] at knocked
            have entered := turn_enter service
              ⟨asked.world, busy.tasks.set _ _, server.requests + 1⟩
              ⟨⟨server.requests, label⟩, session, address⟩ busy.tasks rfl
            simp only [Service.openSocket, Service.call] at entered
            dsimp only
            generalize service.hooks.answer (.opened ⟨⟨server.requests, label⟩, session, address⟩)
              asked.world = taken at entered ⊢
            cases result : taken.result with
            | ok =>
                simp only [result] at entered
                have both := Follows.cons knocked
                  ((agrees.opened ⟨_, session, address⟩ rfl _ .accepted).turn entered)
                exact ⟨_, rfl, both⟩
            | error error =>
                simp only [result] at entered
                have both := Follows.cons knocked
                  ((agrees.turnedAway ⟨_, session, address⟩ rfl _ .accepted).turn entered)
                exact ⟨_, rfl, both⟩

theorem act (agrees : Agrees busy server) (action : ClientAction) :
    ∃ turns, knocks turns = requested [action] ∧
      Follows service busy turns (service.act server action) := by
  cases action with
  | connect label address request => exact agrees.connect label address request
  | text id content | aside id | close id frame | vanish id | garbage id =>
      simp only [Service.act]
      split
      · exact ⟨[], rfl, agrees.nil⟩
      · next socket found =>
        have open_ := ((Server.socket?_eq_some_iff agrees.numbered).mp found).1
        exact agrees.react open_ _

theorem step (agrees : Agrees busy server) (action : ClientAction) :
    ∃ turns, knocks turns = requested [action] ∧
      Follows service busy turns (service.step server action) := by
  obtain ⟨turns, asked, acted⟩ : ∃ turns, knocks turns = requested [action] ∧
    Follows service busy turns (service.act server action) := agrees.act action
  obtain ⟨others, quiet, settled⟩ := acted.agrees.settleWithin
    (service.act server action).1.sockets.length
  refine ⟨turns ++ others, ?_, acted.append settled⟩
  rw [knocks_append, asked, quiet, List.append_nil]

/-- A run is one of the ways to take turns. -/
theorem run (agrees : Agrees busy server) (actions : List ClientAction) :
    ∃ turns, knocks turns = requested actions ∧
      Follows service busy turns (service.run server actions) := by
  induction actions generalizing busy server with
  | nil => exact ⟨[], rfl, agrees.nil⟩
  | cons action rest ih =>
      obtain ⟨turns, asked, stepped⟩ : ∃ turns, knocks turns = requested [action] ∧
        Follows service busy turns (service.step server action) := agrees.step action
      obtain ⟨others, later, done⟩ := ih stepped.agrees
      refine ⟨turns ++ others, ?_, stepped.append done⟩
      rw [knocks_append, asked, later, requested, requested, requested,
        ← List.filterMap_append, List.singleton_append]

end Agrees

/-- Whatever a server does in a run, a busy server can do in turns. -/
theorem exists_turns_run (service : Service σ) (world : World σ)
    (actions : List ClientAction) :
    ∃ turns, knocks turns = requested actions ∧
      Follows service (.start world) turns (service.run (.start world) actions) :=
  (agrees_start world).run actions

end Rendezvous
