/-
# Connections in turns

In a run every action is settled before the next. A server that serves many connections
at once does not wait: each connection goes through the same stages, and between any two
calls of one connection there may be calls of others. Here a busy server takes turns, one
call of a hook at most in each, in any order: a request may wait for its socket while
others come and go, a marked connection may still be read from, and the hooks hear of an
end at any time after it. `Passage` says all that a turn can do to one connection. A run is
one of the ways to take turns.
-/

import Rendezvous.Proofs.Settling
import Rendezvous.Proofs.Writers

namespace Rendezvous

/-- How far an accepted request has come. -/
inductive Phase
  /-- Its socket is not open yet. -/
  | accepted
  /-- What the client sends is read. -/
  | reading
  /-- Nothing more is read, and the hooks have yet to hear of the end. -/
  | ending (farewell : Farewell)
  deriving DecidableEq, Repr

/-- A connection in the hands of a server. -/
structure Task where
  connection : Connection
  phase : Phase
  deriving DecidableEq, Repr

/-- A server with many connections, each at its own stage. -/
structure BusyServer (σ : Type) where
  world : World σ
  tasks : Directory ConnectionId Task
  /-- How many requests have come in. -/
  requests : Nat

/-- A request for a connection, and where it comes from. -/
structure Knock where
  label : String
  address : SocketAddress
  request : UpgradeRequest
  deriving DecidableEq, Repr

/-- What a busy server does next. -/
inductive Turn
  /-- A request comes in and is answered. -/
  | knock (knock : Knock)
  /-- The socket of an accepted request is opened. -/
  | enter (id : ConnectionId)
  /-- The client of an accepted request is gone before its socket is open. -/
  | withdraw (id : ConnectionId)
  /-- A text is read. -/
  | hear (id : ConnectionId) (content : Octets)
  /-- A frame is read that nothing comes of. -/
  | ignore (id : ConnectionId)
  /-- The client puts an end to it, in whatever way, or does not answer any more. -/
  | stop (id : ConnectionId) (farewell : Farewell)
  /-- The hooks mark a connection for closing of their own accord. -/
  | mark (id : ConnectionId)
  /-- It is noticed that a connection is marked. -/
  | notice (id : ConnectionId)
  /-- The hooks hear of the end of a connection. -/
  | conclude (id : ConnectionId)
  /-- The messages on a wire are sent. -/
  | deliver (id : ConnectionId)
  deriving DecidableEq, Repr

/-- The request that comes in with a turn, if one does. -/
def Turn.knock? : Turn → Option Knock
  | .knock incoming => some incoming
  | .enter _ | .withdraw _ | .hear _ _ | .ignore _ | .stop _ _ | .mark _ | .notice _
  | .conclude _ | .deliver _ => none

/-- The requests that come in with some turns; each has its place as its number. -/
def knocks (turns : List Turn) : List Knock :=
  turns.filterMap Turn.knock?

theorem knocks_append (first second : List Turn) :
    knocks (first ++ second) = knocks first ++ knocks second :=
  List.filterMap_append

variable {σ : Type}

/-- A busy server that nobody has come to yet. -/
def BusyServer.start (world : World σ) : BusyServer σ := ⟨world, .empty, 0⟩

namespace Service

variable (service : Service σ)

/-- A request is answered as a server answers it, but a socket is not opened yet. -/
def answerKnock (knock : Knock) (server : BusyServer σ) : BusyServer σ × List Report :=
  let id : ConnectionId := ⟨server.requests, knock.label⟩
  let counted : BusyServer σ := { server with requests := server.requests + 1 }
  if !knock.request.asksForUpgrade then (counted, [.answered id .unanswered])
  else
    match knock.request.admission service.policy with
    | .error error => (counted, [.answered id (.ofError error)])
    | .ok session =>
      let (asked, wanted, report) := service.call id (.handshake session) server.world
      match wanted with
      | .error error =>
        ({ counted with world := asked }, [report, .answered id (.ofError error)])
      | .ok () =>
        ({ counted with
            world := asked
            tasks := server.tasks.set id ⟨⟨id, session, knock.address⟩, .accepted⟩ },
          [report, .answered id (.accepted session)])

/-- A socket is opened, which the hooks may still not accept. -/
def openSocket (id : ConnectionId) (connection : Connection) (server : BusyServer σ) :
    BusyServer σ × List Report :=
  let (entered, taken, report) := service.call id (.opened connection) server.world
  match taken with
  | .ok () =>
    ({ server with world := entered, tasks := server.tasks.set id ⟨connection, .reading⟩ },
      [report])
  | .error error =>
    let (world, last) := letGo id (.frame (some (.ofOpenError error))) entered
    ({ server with world := world, tasks := server.tasks.erase id }, report :: last)

/-- A text is read; where the hook fails, it was the last that is read. -/
def readText (id : ConnectionId) (connection : Connection) (content : Octets)
    (server : BusyServer σ) : BusyServer σ × List Report :=
  let (heard, result, report) := service.call id (.message connection content) server.world
  match result with
  | .ok () => ({ server with world := heard }, [report])
  | .error error =>
    ({ server with
        world := heard
        tasks := server.tasks.set id
          ⟨connection, .ending (.frame (some (.ofMessageError error)))⟩ }, [report])

/-- The hooks hear of an end, and the socket is let go. -/
def concludeSocket (id : ConnectionId) (connection : Connection) (farewell : Farewell)
    (server : BusyServer σ) : BusyServer σ × List Report :=
  let (told, _, report) := service.call id (.closed connection) server.world
  let (world, reports) := letGo id farewell told
  ({ server with world := world, tasks := server.tasks.erase id }, report :: reports)

/-- What a connection does in its turn, as far as its stage allows it. -/
def proceed (id : ConnectionId) (task : Task) (server : BusyServer σ) :
    Turn → BusyServer σ × List Report
  | .enter _ =>
    match task.phase with
    | .accepted => service.openSocket id task.connection server
    | .reading | .ending _ => (server, [])
  | .withdraw _ =>
    match task.phase with
    | .accepted => ({ server with tasks := server.tasks.erase id }, [])
    | .reading | .ending _ => (server, [])
  | .hear _ content =>
    match task.phase with
    | .reading => service.readText id task.connection content server
    | .accepted | .ending _ => (server, [])
  | .stop _ farewell =>
    match task.phase with
    | .reading =>
      ({ server with tasks := server.tasks.set id ⟨task.connection, .ending farewell⟩ }, [])
    | .accepted | .ending _ => (server, [])
  | .notice _ =>
    match task.phase with
    | .reading =>
      if server.world.wires.isClosing id then
        ({ server with
            tasks := server.tasks.set id
              ⟨task.connection, .ending (.frame (some .peerLeft))⟩ }, [])
      else (server, [])
    | .accepted | .ending _ => (server, [])
  | .conclude _ =>
    match task.phase with
    | .ending farewell => service.concludeSocket id task.connection farewell server
    | .accepted | .reading => (server, [])
  | .knock _ | .ignore _ | .mark _ | .deliver _ => (server, [])

/-- Whatever comes next. Nothing comes of the turn of a connection that is not there. -/
def turn (server : BusyServer σ) (next : Turn) : BusyServer σ × List Report :=
  match next with
  | .knock knock => service.answerKnock knock server
  | .mark id => ({ server with world := server.world.withWires (server.world.wires.close id) }, [])
  | .deliver id =>
    let (messages, wires) := server.world.wires.collect id
    ({ server with world := server.world.withWires wires }, messages.map (.delivered id))
  | .enter id | .withdraw id | .hear id _ | .ignore id | .stop id _ | .notice id
  | .conclude id =>
    match server.tasks.get? id with
    | none => (server, [])
    | some task => service.proceed id task server next

/-- Turns in any order. -/
def takeTurns (server : BusyServer σ) : List Turn → BusyServer σ × List Report
  | [] => (server, [])
  | next :: rest =>
    let (turned, first) := service.turn server next
    let (done, later) := takeTurns turned rest
    (done, first ++ later)

variable {service}

theorem takeTurns_append (server : BusyServer σ) (first second : List Turn) :
    service.takeTurns server (first ++ second) =
      ((service.takeTurns (service.takeTurns server first).1 second).1,
        (service.takeTurns server first).2 ++
          (service.takeTurns (service.takeTurns server first).1 second).2) := by
  induction first generalizing server with
  | nil => rfl
  | cons next rest ih => simp [takeTurns, ih]

theorem takeTurns_singleton (server : BusyServer σ) (next : Turn) :
    service.takeTurns server [next] = service.turn server next := by
  simp [takeTurns]

theorem takeTurns_snoc (server : BusyServer σ) (past : List Turn) (next : Turn) :
    service.takeTurns server (past ++ [next]) =
      ((service.turn (service.takeTurns server past).1 next).1,
        (service.takeTurns server past).2 ++
          (service.turn (service.takeTurns server past).1 next).2) := by
  rw [takeTurns_append, takeTurns_singleton]

theorem requests_answerKnock (knock : Knock) (server : BusyServer σ) :
    (service.answerKnock knock server).1.requests = server.requests + 1 := by
  unfold answerKnock
  split
  · rfl
  · split
    · rfl
    · dsimp only
      split <;> rfl

theorem requests_proceed (id : ConnectionId) (task : Task) (server : BusyServer σ)
    (next : Turn) : (service.proceed id task server next).1.requests = server.requests := by
  cases next <;> simp only [proceed, openSocket, readText, concludeSocket]
  all_goals repeat' split
  all_goals rfl

/-- A request is counted as it comes in, and nothing else is. -/
theorem requests_turn (server : BusyServer σ) (next : Turn) :
    (service.turn server next).1.requests = server.requests + (knocks [next]).length := by
  cases next with
  | knock knock => exact requests_answerKnock knock server
  | mark id | deliver id => rfl
  | enter id | withdraw id | hear id content | ignore id | stop id farewell | notice id
  | conclude id =>
      simp only [turn]
      split
      · rfl
      · exact requests_proceed _ _ server _

theorem requests_takeTurns (server : BusyServer σ) (turns : List Turn) :
    (service.takeTurns server turns).1.requests = server.requests + (knocks turns).length := by
  induction turns using List.reverseRecOn with
  | nil => rfl
  | append_singleton past next ih =>
      rw [takeTurns_snoc, requests_turn, ih, knocks_append, List.length_append, Nat.add_assoc]

end Service

/-! ## What the hooks are told of a connection -/

/-- A call of a hook and what the hook answered. -/
structure Told where
  call : HookCall
  result : Except SignalingError Unit

/-- The call that a report tells of, if it is one for the given connection. -/
def Report.told? (id : ConnectionId) : Report → Option Told
  | .called about call result => if about = id then some ⟨call, result⟩ else none
  | .answered _ _ | .delivered _ _ | .closedWith _ _ => none

/-- The calls of the hooks for a connection, in order. -/
def told (id : ConnectionId) (reports : List Report) : List Told :=
  reports.filterMap (Report.told? id)

theorem told_append (id : ConnectionId) (first second : List Report) :
    told id (first ++ second) = told id first ++ told id second :=
  List.filterMap_append

@[simp] theorem told_called_self (id : ConnectionId) (call : HookCall)
    (result : Except SignalingError Unit) (rest : List Report) :
    told id (.called id call result :: rest) = ⟨call, result⟩ :: told id rest := by
  simp [told, Report.told?]

theorem told_called_of_ne {about id : ConnectionId} (other : about ≠ id) (call : HookCall)
    (result : Except SignalingError Unit) (rest : List Report) :
    told id (.called about call result :: rest) = told id rest := by
  simp [told, Report.told?, other]

@[simp] theorem told_map_delivered (about id : ConnectionId) (messages : List Outgoing) :
    told id (messages.map (.delivered about)) = [] := by
  simp [told, Report.told?]

/-- Letting a socket go calls no hook. -/
@[simp] theorem told_letGo (about id : ConnectionId) (farewell : Farewell) (world : World σ) :
    told id (Service.letGo about farewell world).2 = [] :=
  Service.filterMap_letGo farewell world (fun _ => rfl) fun _ => rfl

/-! ## What a turn does to one connection -/

/-- All that a turn can do to one connection: how its stage changes, and what the hooks are
told of it meanwhile. -/
inductive Passage (admits : ConnectionId → SessionId → Prop) (id : ConnectionId) :
    Option Task → List Told → Option Task → Prop
  /-- Nothing. -/
  | rest {task : Option Task} : Passage admits id task [] task
  | refused {session : SessionId} {error : SignalingError} (admitted : admits id session) :
    Passage admits id none [⟨.handshake session, .error error⟩] none
  | accepted (connection : Connection) (admitted : admits id connection.session)
    (same : connection.id = id) :
    Passage admits id none [⟨.handshake connection.session, .ok ()⟩]
      (some ⟨connection, .accepted⟩)
  | withdrawn {connection : Connection} : Passage admits id (some ⟨connection, .accepted⟩) [] none
  | opened {connection : Connection} :
    Passage admits id (some ⟨connection, .accepted⟩) [⟨.opened connection, .ok ()⟩]
      (some ⟨connection, .reading⟩)
  | turnedAway {connection : Connection} {error : SignalingError} :
    Passage admits id (some ⟨connection, .accepted⟩) [⟨.opened connection, .error error⟩] none
  | heard {connection : Connection} {text : Octets} :
    Passage admits id (some ⟨connection, .reading⟩) [⟨.message connection text, .ok ()⟩]
      (some ⟨connection, .reading⟩)
  | failed {connection : Connection} {text : Octets} {error : SignalingError}
    {farewell : Farewell} :
    Passage admits id (some ⟨connection, .reading⟩) [⟨.message connection text, .error error⟩]
      (some ⟨connection, .ending farewell⟩)
  | stopped {connection : Connection} {farewell : Farewell} :
    Passage admits id (some ⟨connection, .reading⟩) [] (some ⟨connection, .ending farewell⟩)
  | concluded {connection : Connection} {farewell : Farewell}
    {result : Except SignalingError Unit} :
    Passage admits id (some ⟨connection, .ending farewell⟩) [⟨.closed connection, result⟩] none

namespace Service

variable {service : Service σ} {server : BusyServer σ}
  {admits : ConnectionId → SessionId → Prop} {about id : ConnectionId} {world : World σ}
  {requests : Nat} {reports : List Report}

/-- What a turn makes of a connection and reports of it. -/
def Passes (server : BusyServer σ) (admits : ConnectionId → SessionId → Prop)
    (id : ConnectionId) (outcome : BusyServer σ × List Report) : Prop :=
  Passage admits id (server.tasks.get? id) (told id outcome.2) (outcome.1.tasks.get? id)

/-- Other connections are not concerned where a stage is left as it is, -/
theorem passes_kept (only : ∀ id, id ≠ about → told id reports = [])
    (passage : Passage admits about (server.tasks.get? about) (told about reports)
      (server.tasks.get? about)) :
    Passes server admits id (⟨world, server.tasks, requests⟩, reports) := by
  rw [Passes]
  by_cases same : id = about
  · subst same
    exact passage
  · rw [only id same]
    exact .rest

/-- nor where one connection changes its stage, -/
theorem passes_set {task : Task} (only : ∀ id, id ≠ about → told id reports = [])
    (passage : Passage admits about (server.tasks.get? about) (told about reports) (some task)) :
    Passes server admits id (⟨world, server.tasks.set about task, requests⟩, reports) := by
  rw [Passes, Directory.get?_set]
  by_cases same : id = about
  · subst same
    rwa [if_pos rfl]
  · rw [only id same, if_neg same]
    exact .rest

/-- nor where one is gone. -/
theorem passes_erase (only : ∀ id, id ≠ about → told id reports = [])
    (passage : Passage admits about (server.tasks.get? about) (told about reports) none) :
    Passes server admits id (⟨world, server.tasks.erase about, requests⟩, reports) := by
  rw [Passes, Directory.get?_erase]
  by_cases same : id = about
  · subst same
    rwa [if_pos rfl]
  · rw [only id same, if_neg same]
    exact .rest

theorem told_called_only {call : HookCall} {result : Except SignalingError Unit}
    (only : ∀ id, id ≠ about → told id reports = []) (id : ConnectionId) (other : id ≠ about) :
    told id (.called about call result :: reports) = [] := by
  rw [told_called_of_ne (Ne.symm other), only id other]

theorem passes_answerKnock {knock : Knock}
    (fresh : server.tasks.get? ⟨server.requests, knock.label⟩ = none)
    (admitted : ∀ session, knock.request.admission service.policy = .ok session →
      admits ⟨server.requests, knock.label⟩ session) :
    Passes server admits id (service.answerKnock knock server) := by
  unfold answerKnock
  split
  · show Passage _ _ _ [] _
    exact .rest
  · cases admission : knock.request.admission service.policy with
    | error error =>
        show Passage _ _ _ [] _
        exact .rest
    | ok session =>
        dsimp only [call]
        split
        · next error refused =>
          refine passes_kept (told_called_only fun _ _ => rfl) ?_
          rw [told_called_self, refused, fresh]
          exact .refused (admitted session admission)
        · next accepted =>
          refine passes_set (told_called_only fun _ _ => rfl) ?_
          rw [told_called_self, accepted, fresh]
          exact .accepted ⟨_, session, _⟩ (admitted session admission) rfl

theorem passes_openSocket {connection : Connection}
    (here : server.tasks.get? about = some ⟨connection, .accepted⟩) :
    Passes server admits id (service.openSocket about connection server) := by
  dsimp only [openSocket, call]
  split
  · next taken =>
    refine passes_set (told_called_only fun _ _ => rfl) ?_
    rw [told_called_self, taken, here]
    exact .opened
  · next error refused =>
    refine passes_erase (told_called_only fun id _ => told_letGo about id _ _) ?_
    rw [told_called_self, refused, here, told_letGo]
    exact .turnedAway

theorem passes_readText {connection : Connection} {content : Octets}
    (here : server.tasks.get? about = some ⟨connection, .reading⟩) :
    Passes server admits id (service.readText about connection content server) := by
  dsimp only [readText, call]
  split
  · next heard =>
    refine passes_kept (told_called_only fun _ _ => rfl) ?_
    rw [told_called_self, heard, here]
    exact .heard
  · next error failed =>
    refine passes_set (told_called_only fun _ _ => rfl) ?_
    rw [told_called_self, failed, here]
    exact .failed

theorem passes_concludeSocket {connection : Connection} {farewell : Farewell}
    (here : server.tasks.get? about = some ⟨connection, .ending farewell⟩) :
    Passes server admits id (service.concludeSocket about connection farewell server) := by
  dsimp only [concludeSocket, call]
  refine passes_erase (told_called_only fun id _ => told_letGo about id _ _) ?_
  rw [told_called_self, here, told_letGo]
  exact .concluded

/-- The turn of a connection does one of the things that its stage allows. -/
theorem passes_proceed {task : Task} (here : server.tasks.get? about = some task) (next : Turn) :
    Passes server admits id (service.proceed about task server next) := by
  obtain ⟨connection, phase⟩ := task
  have rest : Passes server admits id (server, []) := .rest
  cases next with
  | knock knock | ignore id | mark id | deliver id => exact rest
  | enter id =>
      cases phase with
      | accepted => exact passes_openSocket here
      | reading | ending farewell => exact rest
  | withdraw id =>
      cases phase with
      | accepted => exact passes_erase (fun _ _ => rfl) (here ▸ .withdrawn)
      | reading | ending farewell => exact rest
  | hear id content =>
      cases phase with
      | reading => exact passes_readText here
      | accepted | ending farewell => exact rest
  | stop id farewell =>
      cases phase with
      | reading => exact passes_set (fun _ _ => rfl) (here ▸ .stopped)
      | accepted | ending farewell => exact rest
  | notice id =>
      cases phase with
      | reading =>
          simp only [proceed]
          split
          · exact passes_set (fun _ _ => rfl) (here ▸ .stopped)
          · exact rest
      | accepted | ending farewell => exact rest
  | conclude id =>
      cases phase with
      | ending farewell => exact passes_concludeSocket here
      | accepted | reading => exact rest

/-- A turn takes every connection from one stage to the next or leaves it where it is. -/
theorem passes_turn {next : Turn}
    (fresh : ∀ knock, next = .knock knock →
      server.tasks.get? ⟨server.requests, knock.label⟩ = none)
    (admitted : ∀ knock session, next = .knock knock →
      knock.request.admission service.policy = .ok session →
      admits ⟨server.requests, knock.label⟩ session) :
    Passes server admits id (service.turn server next) := by
  cases next with
  | knock knock =>
      exact passes_answerKnock (fresh knock rfl) fun session => admitted knock session rfl
  | mark about => exact .rest
  | deliver about =>
      show Passage _ _ _ (told id (List.map _ _)) _
      rw [told_map_delivered]
      exact .rest
  | enter about | withdraw about | hear about content | ignore about | stop about farewell
  | notice about | conclude about =>
      simp only [turn]
      split
      · exact .rest
      · next task here => exact passes_proceed here _

end Service

end Rendezvous
