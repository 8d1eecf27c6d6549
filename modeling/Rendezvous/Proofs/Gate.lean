/-
# The gate

Who wants in is checked five times, always in the same order: the path against the list of
stems, the host, the origin, the shape of the path, and whether the session has room. The
first check that fails settles the answer, and nothing else comes of the request. Where none
fails the client joins the session that its path names, if nobody else comes in first. A
path names all that follows the stem of session paths, so two clients meet exactly if their
paths are the same.

The checks are stated here without the code that makes them.
-/

import Rendezvous.Proofs.OpenSockets
import Rendezvous.Proofs.Refusals

namespace Rendezvous

open Function (update)

/-! ## What policies and paths say -/

namespace AccessPolicy

variable {allowed : List String}

theorem allowsPath_eq_false_iff {path : String} : allowsPath allowed path = false ↔
    allowed ≠ [] ∧ ∀ stem ∈ allowed, ¬ stem.toList <+: path.toList := by
  simp [allowsPath, Bool.or_eq_false_iff]

theorem allowsHeader_eq_false_iff {value : Option String} : allowsHeader allowed value = false ↔
    allowed ≠ [] ∧ ∀ entry ∈ allowed, value ≠ some entry := by
  cases value with
  | none => simp [allowsHeader]
  | some shown => simp [allowsHeader, Bool.or_eq_false_iff, List.forall_mem_ne]

end AccessPolicy

namespace SessionId

/-- A path names a session if it is the stem and the name, which is not empty. -/
theorem ofPath?_eq_some_iff {path : String} {session : SessionId} :
    ofPath? path = some session ↔ session.text ≠ "" ∧ path = pathStem ++ session.text := by
  have named : path = pathStem ++ session.text ↔
      pathStem.toList.isPrefixOf? path.toList = some session.text.toList := by
    rw [List.isPrefixOf?_eq_some_iff_append_eq, ← String.toList_append, String.toList_inj, eq_comm]
  rw [named, ofPath?]
  cases pathStem.toList.isPrefixOf? path.toList with
  | none => simp
  | some rest =>
      cases rest with
      | nil =>
          refine iff_of_false nofun ?_
          rintro ⟨nonempty, same⟩
          exact nonempty (String.toList_inj.mp (Option.some.inj same).symm)
      | cons first rest =>
          constructor
          · rintro ⟨⟩
            refine ⟨fun empty => ?_, by rw [String.toList_ofList]⟩
            cases (String.toList_ofList.symm.trans (congrArg String.toList empty))
          · rintro ⟨-, same⟩
            have text : String.ofList (first :: rest) = session.text := by
              rw [Option.some.inj same, String.ofList_toList]
            exact congrArg (fun name => some (SessionId.mk name)) text

theorem ofPath_eq_ok_iff {path : String} {session : SessionId} :
    ofPath path = .ok session ↔ session.text ≠ "" ∧ path = pathStem ++ session.text := by
  rw [← ofPath?_eq_some_iff, ofPath]
  cases ofPath? path <;> simp

theorem ofPath_eq_error {path : String} {error : SignalingError}
    (unnamed : ofPath path = .error error) : error = .invalidPath path := by
  unfold ofPath at unnamed
  split at unnamed
  · cases unnamed
  · exact (Except.error.inj unnamed).symm

end SessionId

/-! ## The checks -/

/-- What is checked of a request. -/
inductive Check
  | stems
  | host
  | origin
  | shape
  | room
  deriving DecidableEq, Repr

namespace Check

/-- The checks in the order in which they are made. -/
def order : List Check := [.stems, .host, .origin, .shape, .room]

/-- When a request does not pass a check. A list without entries is passed by every request;
a list with entries is not passed by a request without the header. -/
def Fails (policy : AccessPolicy) (world : World Relay) (request : UpgradeRequest) : Check → Prop
  | .stems =>
    policy.paths ≠ [] ∧ ∀ stem ∈ policy.paths, ¬ stem.toList <+: request.path.toList
  | .host => policy.hosts ≠ [] ∧ ∀ entry ∈ policy.hosts, request.header? "Host" ≠ some entry
  | .origin =>
    policy.origins ≠ [] ∧ ∀ entry ∈ policy.origins, request.header? "Origin" ≠ some entry
  | .shape => ∀ name, name ≠ "" → request.path ≠ "/call/" ++ name
  | .room => ∃ name, request.path = "/call/" ++ name ∧ world.HasTwo ⟨name⟩

/-- How a request is answered that does not pass a check. -/
def answer : Check → Reception
  | .stems | .shape => .refused 404 "Not Found"
  | .host | .origin => .refused 403 "Forbidden"
  | .room => .refused 400 "Space Full"

/-- A check is the first that a request does not pass. -/
def IsFirst (policy : AccessPolicy) (world : World Relay) (request : UpgradeRequest)
    (check : Check) : Prop :=
  check.Fails policy world request ∧
    ∀ earlier ∈ order.takeWhile (· ≠ check), ¬ earlier.Fails policy world request

variable {policy : AccessPolicy} {world : World Relay} {request : UpgradeRequest}
  {session : SessionId}

theorem fails_stems_iff : stems.Fails policy world request ↔
    AccessPolicy.allowsPath policy.paths request.path = false :=
  AccessPolicy.allowsPath_eq_false_iff.symm

theorem fails_host_iff : host.Fails policy world request ↔
    AccessPolicy.allowsHeader policy.hosts (request.header? "Host") = false :=
  AccessPolicy.allowsHeader_eq_false_iff.symm

theorem fails_origin_iff : origin.Fails policy world request ↔
    AccessPolicy.allowsHeader policy.origins (request.header? "Origin") = false :=
  AccessPolicy.allowsHeader_eq_false_iff.symm

theorem fails_shape_iff : shape.Fails policy world request ↔
    ∀ session, SessionId.ofPath request.path ≠ .ok session := by
  simp only [Fails, ne_eq, SessionId.ofPath_eq_ok_iff, not_and]
  exact ⟨fun unnamed session => unnamed session.text, fun unnamed name => unnamed ⟨name⟩⟩

theorem fails_room_iff (named : SessionId.ofPath request.path = .ok session) :
    room.Fails policy world request ↔ world.HasTwo session := by
  obtain ⟨-, path⟩ := SessionId.ofPath_eq_ok_iff.mp named
  constructor
  · rintro ⟨name, path', two⟩
    have same : session.text = name := (String.append_right_inj _).mp (path.symm.trans path')
    rwa [← same] at two
  · exact fun two => ⟨session.text, path, two⟩

/-- A request that does not pass one of the first four checks is refused by the policy. -/
theorem IsFirst.exists_error {check : Check} (first : check.IsFirst policy world request)
    (early : check ≠ room) :
    ∃ error, request.admission policy = .error error ∧ Reception.ofError error = check.answer := by
  obtain ⟨fails, passed⟩ := first
  unfold UpgradeRequest.admission AccessPolicy.admission
  cases check with
  | stems =>
      rw [fails_stems_iff] at fails
      exact ⟨.invalidPath request.path, by simp [fails], rfl⟩
  | host =>
      have stems := passed stems (by decide)
      rw [fails_stems_iff, Bool.not_eq_false] at stems
      rw [fails_host_iff] at fails
      exact ⟨.forbidden .host (request.header? "Host"), by simp [fails, stems], rfl⟩
  | origin =>
      have stems := passed stems (by decide)
      have host := passed host (by decide)
      rw [fails_stems_iff, Bool.not_eq_false] at stems
      rw [fails_host_iff, Bool.not_eq_false] at host
      rw [fails_origin_iff] at fails
      exact ⟨.forbidden .origin (request.header? "Origin"), by simp [fails, stems, host], rfl⟩
  | shape =>
      have stems := passed stems (by decide)
      have host := passed host (by decide)
      have origin := passed origin (by decide)
      rw [fails_stems_iff, Bool.not_eq_false] at stems
      rw [fails_host_iff, Bool.not_eq_false] at host
      rw [fails_origin_iff, Bool.not_eq_false] at origin
      rw [fails_shape_iff] at fails
      cases unnamed : SessionId.ofPath request.path with
      | ok session => exact absurd unnamed (fails session)
      | error error =>
          refine ⟨error, by simp [stems, host, origin], ?_⟩
          rw [SessionId.ofPath_eq_error unnamed]
          rfl
  | room => exact absurd rfl early

/-- The policy lets a request in that passes the first four checks, into the session that
its path names. -/
theorem exists_session (passed : ∀ check ∈ order.takeWhile (· ≠ room),
    ¬ check.Fails policy world request) :
    ∃ session : SessionId, request.admission policy = .ok session ∧ session.text ≠ "" ∧
      request.path = "/call/" ++ session.text ∧
        (room.Fails policy world request ↔ world.HasTwo session) := by
  have stems := passed stems (by decide)
  have host := passed host (by decide)
  have origin := passed origin (by decide)
  have shape := passed shape (by decide)
  rw [fails_stems_iff, Bool.not_eq_false] at stems
  rw [fails_host_iff, Bool.not_eq_false] at host
  rw [fails_origin_iff, Bool.not_eq_false] at origin
  simp only [fails_shape_iff, not_forall, not_not] at shape
  obtain ⟨session, named⟩ := shape
  obtain ⟨nonempty, path⟩ := SessionId.ofPath_eq_ok_iff.mp named
  refine ⟨session, ?_, nonempty, path, fails_room_iff named⟩
  simp [UpgradeRequest.admission, AccessPolicy.admission, stems, host, origin, named]

/-- Some check is the first that fails, or none fails. -/
theorem exists_first_or_passed : (∃ check : Check, check.IsFirst policy world request) ∨
    ∀ check : Check, ¬ check.Fails policy world request := by
  by_cases stems : stems.Fails policy world request
  · exact .inl ⟨.stems, stems, by simp [order]⟩
  by_cases host : host.Fails policy world request
  · exact .inl ⟨.host, host, by simp [order, stems]⟩
  by_cases origin : origin.Fails policy world request
  · exact .inl ⟨.origin, origin, by simp [order, stems, host]⟩
  by_cases shape : shape.Fails policy world request
  · exact .inl ⟨.shape, shape, by simp [order, stems, host, origin]⟩
  by_cases room : room.Fails policy world request
  · exact .inl ⟨.room, room, by simp [order, stems, host, origin, shape]⟩
  · refine .inr fun check => ?_
    cases check <;> assumption

/-- Whoever is let into a session has named it. -/
theorem path_of_admission (admitted : request.admission policy = .ok session) :
    request.path = "/call/" ++ session.text := by
  unfold UpgradeRequest.admission AccessPolicy.admission at admitted
  split at admitted
  · cases admitted
  split at admitted
  · cases admitted
  split at admitted
  · cases admitted
  · exact (SessionId.ofPath_eq_ok_iff.mp admitted).2

end Check

/-! ## Room along turns -/

/-- What holds of the world of a server at any time. -/
structure World.Tidy (world : World Relay) : Prop where
  sound : world.core.poisoned = false
  order : world.InOrder

namespace World

variable {world : World Relay}

theorem Tidy.after (tidy : world.Tidy) (call : HookCall) : (world.after call).Tidy :=
  ⟨(poisoned_after world call).trans tidy.sound, tidy.order.after tidy.sound call⟩

theorem Tidy.withWires (tidy : world.Tidy) (wires : Switchboard) : (world.withWires wires).Tidy :=
  ⟨tidy.sound, tidy.order⟩

theorem Tidy.hasTwo_iff (tidy : world.Tidy) (id : SessionId) :
    world.HasTwo id ↔ 2 ≤ (world.session id).members.length := by
  rw [← tidy.order.isFull_iff, Session.isFull, Session.capacity, decide_eq_true_iff]

theorem length_without_le (session : Session) (id : ConnectionId) :
    (session.without id).members.length ≤ session.members.length := by
  unfold Session.without
  cases session.partner? id with
  | none => exact session.length_detach_le id
  | some peer =>
      exact ((session.detach id).length_detach_le peer.id).trans (session.length_detach_le id)

theorem length_remains_le (session : Session) (id : SessionId) :
    (session.remains.getD (.new id)).members.length ≤ session.members.length := by
  unfold Session.remains
  split
  · exact Nat.zero_le _
  · exact Nat.le_refl _

/-- Nobody comes into a session but by an opening. -/
theorem length_members_after_le (sound : world.core.poisoned = false) {call : HookCall}
    (nobody : call.arrival? = none) (id : SessionId) :
    ((world.after call).session id).members.length ≤ (world.session id).members.length := by
  have stored : ((world.effect call).stored.getD (.new call.session)).members.length ≤
      (world.session call.session).members.length := by
    have comes := world.comes_effect call
    generalize world.effect call = effect at comes ⊢
    cases comes with
    | idle | answered parsed | passed parsed found | kept parsed => exact Nat.le_refl _
    | welcomed room => cases nobody
    | @closed connection =>
        cases present : world.sessions connection.session with
        | none => exact Nat.zero_le _
        | some session =>
            rw [HookCall.session, session_of_sessions present]
            exact (length_remains_le _ _).trans (length_without_le _ _)
  rw [session_of_update (sessions_after sound call), Function.update_apply]
  split
  · next same =>
    rw [same]
    exact stored
  · exact Nat.le_refl _

section

variable (tidy : world.Tidy) {connection : Connection}
  (room : ¬ world.HasTwo connection.session)

include tidy room

theorem result_opened_of_room : world.result (.opened connection) = .ok () := by
  refine (result_opened tidy.sound connection).trans (if_neg ?_)
  exact fun full => room ((tidy.order.isFull_iff connection.session).mp full)

/-- Who comes into a session with room is its last member. -/
theorem members_after_opened :
    ((world.after (.opened connection)).session connection.session).members =
      (world.session connection.session).members ++ [connection] := by
  have space : ¬ (world.session connection.session).isFull = true := fun full =>
    room ((tidy.order.isFull_iff connection.session).mp full)
  rw [session_of_update (sessions_after tidy.sound _), effect_opened, if_neg space]
  show (update world.session connection.session _ connection.session).members = _
  rw [Function.update_self]
  rfl

end

end World

theorem InStep.tidy {server : Server Relay} (inStep : InStep server) : server.world.Tidy where
  sound := inStep.sound
  order id := by
    cases present : server.world.sessions id with
    | none =>
        rw [World.session, present]
        exact Session.fits_new id
    | some session =>
        rw [World.session_of_sessions present]
        have stage := inStep.staged.stage_of_eq present
        refine ⟨stage.id_eq, ?_⟩
        cases stage with
        | lone home => exact Nat.le_succ 1
        | pair home home' differ => exact Nat.le_refl 2

namespace Service

section

variable {σ : Type} {service : Service σ} {server : BusyServer σ} {next : Turn}

/-- What every call and every change of wires preserves, a turn preserves; connections are
opened only in the turn that is for it. -/
theorem world_turn {P : World σ → Prop}
    (answer : ∀ world call, (∃ id, next = .enter id) ∨ call.arrival? = none →
      P world → P (service.hooks.answer call world).world)
    (wires : ∀ (world : World σ) wires, P world → P (world.withWires wires))
    (here : P server.world) : P (service.turn server next).1.world := by
  cases next with
  | knock knock =>
      simp only [turn, answerKnock, call]
      repeat' split
      all_goals first | exact here | exact answer _ _ (.inr rfl) here
  | mark id => exact wires _ _ here
  | deliver id => exact wires _ _ here
  | enter id =>
      simp only [turn, proceed, openSocket, call]
      repeat' split
      all_goals first
        | exact here
        | exact answer _ _ (.inl ⟨id, rfl⟩) here
        | exact wires _ _ (answer _ _ (.inl ⟨id, rfl⟩) here)
  | withdraw id | ignore id | stop id farewell | notice id =>
      simp only [turn, proceed]
      repeat' split
      all_goals exact here
  | hear id content =>
      simp only [turn, proceed, readText, call]
      repeat' split
      all_goals first | exact here | exact answer _ _ (.inr rfl) here
  | conclude id =>
      simp only [turn, proceed, concludeSocket, call]
      repeat' split
      all_goals first | exact here | exact wires _ _ (answer _ _ (.inr rfl) here)

/-- The turn of a connection leaves the stages of all others alone. -/
theorem get?_proceed_of_ne {about id : ConnectionId} (other : id ≠ about) (task : Task) :
    (service.proceed about task server next).1.tasks.get? id = server.tasks.get? id := by
  have set (task : Task) : (server.tasks.set about task).get? id = server.tasks.get? id := by
    rw [Directory.get?_set, if_neg other]
  have erase : (server.tasks.erase about).get? id = server.tasks.get? id := by
    rw [Directory.get?_erase, if_neg other]
  cases next <;> simp only [proceed, openSocket, readText, concludeSocket]
  all_goals repeat' split
  all_goals first | rfl | exact set _ | exact erase

/-- A request that is accepted waits for its socket, whatever others do. -/
theorem get?_accepted_turn {id : ConnectionId} {connection : Connection}
    (waits : server.tasks.get? id = some ⟨connection, .accepted⟩)
    (earlier : id.serial < server.requests) (enters : next ≠ .enter id)
    (withdraws : next ≠ .withdraw id) :
    (service.turn server next).1.tasks.get? id = some ⟨connection, .accepted⟩ := by
  have proceeds (about : ConnectionId) {task : Task} (here : server.tasks.get? about = some task)
      (idle : about = id → (service.proceed about ⟨connection, .accepted⟩ server next).1 = server) :
      (service.proceed about task server next).1.tasks.get? id = some ⟨connection, .accepted⟩ := by
    by_cases same : about = id
    · subst same
      cases waits.symm.trans here
      rw [idle rfl, waits]
    · rw [get?_proceed_of_ne (Ne.symm same), waits]
  cases next with
  | knock knock =>
      have other : id ≠ ⟨server.requests, knock.label⟩ := by
        rintro rfl
        exact Nat.lt_irrefl _ earlier
      simp only [turn, answerKnock, call]
      repeat' split
      all_goals first
        | exact waits
        | exact (Directory.get?_set _ _ _ _).trans ((if_neg other).trans waits)
  | mark about | deliver about => exact waits
  | enter about | withdraw about =>
      simp only [turn]
      split
      · exact waits
      · next task here =>
        refine proceeds about here fun same => ?_
        subst same
        contradiction
  | hear about content | ignore about | stop about farewell | notice about | conclude about =>
      simp only [turn]
      split
      · exact waits
      · next task here => exact proceeds about here fun _ => rfl

end

/-! ## What the relay answers -/

section

variable {policy : AccessPolicy} {world : World Relay} {id : ConnectionId} {session : SessionId}

theorem call_handshake_of_hasTwo (tidy : world.Tidy) (two : world.HasTwo session) :
    call ⟨Relay.hooks, policy⟩ id (.handshake session) world =
      (world, .error (.spaceFull session),
        .called id (.handshake session) (.error (.spaceFull session))) := by
  have refused : (Relay.hooks.answer (.handshake session) world).result =
      .error (.spaceFull session) := by
    refine (World.result_handshake tidy.sound session).trans (if_pos ?_)
    exact (tidy.order.isFull_iff session).mpr two
  rw [call, refused]
  exact congrArg (fun world => (world, _)) (Relay.world_handshake session world)

theorem call_handshake_of_room (tidy : world.Tidy) (room : ¬ world.HasTwo session) :
    call ⟨Relay.hooks, policy⟩ id (.handshake session) world =
      (world, .ok (), .called id (.handshake session) (.ok ())) := by
  have accepted : (Relay.hooks.answer (.handshake session) world).result = .ok () := by
    refine (World.result_handshake tidy.sound session).trans (if_neg ?_)
    exact fun full => room ((tidy.order.isFull_iff session).mp full)
  rw [call, accepted]
  exact congrArg (fun world => (world, _)) (Relay.world_handshake session world)

theorem call_opened_of_room (tidy : world.Tidy) (connection : Connection)
    (room : ¬ world.HasTwo connection.session) :
    call ⟨Relay.hooks, policy⟩ id (.opened connection) world =
      (world.after (.opened connection), .ok (), .called id (.opened connection) (.ok ())) := by
  have accepted : (Relay.hooks.answer (.opened connection) world).result = .ok () :=
    World.result_opened_of_room tidy room
  rw [call, accepted]
  rfl

end

end Service

/-! ## Answers -/

/-- All that is reported are calls of the hook for those who want in. -/
def OnlyHandshakes (id : ConnectionId) (reports : List Report) : Prop :=
  ∀ report ∈ reports, ∃ session result, report = .called id (.handshake session) result

section

variable {policy : AccessPolicy}

/-- A client whose request was accepted joins its session when its socket is opened. -/
structure Joins (policy : AccessPolicy) (server : BusyServer Relay) (connection : Connection) :
    Prop where
  reports : (Service.turn ⟨Relay.hooks, policy⟩ server (.enter connection.id)).2 =
    [.called connection.id (.opened connection) (.ok ())]
  stage : (Service.turn ⟨Relay.hooks, policy⟩ server (.enter connection.id)).1.tasks.get?
    connection.id = some ⟨connection, .reading⟩
  members : ((Service.turn ⟨Relay.hooks, policy⟩ server (.enter connection.id)).1.world.session
    connection.session).members =
      (server.world.session connection.session).members ++ [connection]

/-- How a busy server answers a request. -/
structure AnsweredInTurn (policy : AccessPolicy) (server : BusyServer Relay) (knock : Knock) :
    Prop where
  /-- The first check that fails settles the answer. Nothing but the count of requests
  is changed. -/
  refused : ∀ check : Check, check.IsFirst policy server.world knock.request →
    ∃ calls, OnlyHandshakes ⟨server.requests, knock.label⟩ calls ∧
      Service.turn ⟨Relay.hooks, policy⟩ server (.knock knock) =
        ({ server with requests := server.requests + 1 },
          calls ++ [.answered ⟨server.requests, knock.label⟩ check.answer])
  /-- Where no check fails the client joins the session that its path names, whatever turns
  are taken before its socket is opened, unless a socket is opened in one of them or the
  client withdraws. -/
  taken_in : (∀ check : Check, ¬ check.Fails policy server.world knock.request) →
    ∃ session : SessionId, session.text ≠ "" ∧ knock.request.path = "/call/" ++ session.text ∧
      (Service.turn ⟨Relay.hooks, policy⟩ server (.knock knock)).2 =
        [.called ⟨server.requests, knock.label⟩ (.handshake session) (.ok ()),
          .answered ⟨server.requests, knock.label⟩ (.accepted session)] ∧
      ∀ meanwhile : List Turn, (∀ id, .enter id ∉ meanwhile) →
        .withdraw ⟨server.requests, knock.label⟩ ∉ meanwhile →
          Joins policy
            (Service.takeTurns ⟨Relay.hooks, policy⟩
              (Service.turn ⟨Relay.hooks, policy⟩ server (.knock knock)).1 meanwhile).1
            ⟨⟨server.requests, knock.label⟩, session, knock.address⟩

variable {server : BusyServer Relay}

theorem joins_of_room (tidy : server.world.Tidy) {connection : Connection}
    (waits : server.tasks.get? connection.id = some ⟨connection, .accepted⟩)
    (room : ¬ server.world.HasTwo connection.session) : Joins policy server connection := by
  have turned : Service.turn ⟨Relay.hooks, policy⟩ server (.enter connection.id) =
      ({ server with
          world := server.world.after (.opened connection)
          tasks := server.tasks.set connection.id ⟨connection, .reading⟩ },
        [.called connection.id (.opened connection) (.ok ())]) := by
    simp only [Service.turn, waits, Service.proceed, Service.openSocket,
      Service.call_opened_of_room tidy connection room]
  constructor
  case reports => rw [turned]
  case stage =>
    rw [turned]
    exact Directory.get?_set_self _ _ _
  case members =>
    rw [turned]
    exact World.members_after_opened tidy room

/-- While nobody enters there is room where there was room. -/
theorem room_takeTurns (policy : AccessPolicy) (server : BusyServer Relay)
    (tidy : server.world.Tidy) {session : SessionId}
    (room : ¬ server.world.HasTwo session) {meanwhile : List Turn}
    (nobody : ∀ id, .enter id ∉ meanwhile) :
    (Service.takeTurns ⟨Relay.hooks, policy⟩ server meanwhile).1.world.Tidy ∧
      ¬ (Service.takeTurns ⟨Relay.hooks, policy⟩ server meanwhile).1.world.HasTwo session := by
  induction meanwhile using List.reverseRecOn with
  | nil => exact ⟨tidy, room⟩
  | append_singleton past next ih =>
      have here := ih fun id listed => nobody id (List.mem_append_left [next] listed)
      rw [Service.takeTurns_snoc]
      refine Service.world_turn (P := fun world => world.Tidy ∧ ¬ world.HasTwo session) ?_ ?_ here
      · rintro world call made ⟨tidy, room⟩
        have stays : call.arrival? = none := by
          refine made.resolve_left ?_
          rintro ⟨id, rfl⟩
          exact nobody id (List.mem_append_right past List.mem_cons_self)
        refine ⟨tidy.after call, ?_⟩
        rw [tidy.hasTwo_iff] at room
        exact fun two => room (((tidy.after call).hasTwo_iff session).mp two |>.trans
          (World.length_members_after_le tidy.sound stays session))
      · rintro world wires ⟨tidy, room⟩
        exact ⟨tidy.withWires wires, room⟩

/-- A request that is accepted waits while others take their turns. -/
theorem waits_takeTurns {service : Service Relay} {connection : Connection}
    (waits : server.tasks.get? connection.id = some ⟨connection, .accepted⟩)
    (earlier : connection.id.serial < server.requests) {meanwhile : List Turn}
    (nobody : ∀ id, .enter id ∉ meanwhile) (stays : .withdraw connection.id ∉ meanwhile) :
    (service.takeTurns server meanwhile).1.tasks.get? connection.id =
      some ⟨connection, .accepted⟩ := by
  induction meanwhile using List.reverseRecOn with
  | nil => exact waits
  | append_singleton past next ih =>
      rw [List.mem_append, List.mem_singleton, not_or] at stays
      rw [Service.takeTurns_snoc]
      refine Service.get?_accepted_turn
        (ih (fun id listed => nobody id (List.mem_append_left [next] listed)) stays.1) ?_ ?_
        (Ne.symm stays.2)
      · rw [Service.requests_takeTurns]
        exact Nat.lt_add_right _ earlier
      · rintro rfl
        exact nobody _ (List.mem_append_right past List.mem_cons_self)

/-- A busy server answers every request for a connection in one of two ways. -/
theorem answeredInTurn (tidy : server.world.Tidy) {knock : Knock}
    (asks : knock.request.asksForUpgrade = true) : AnsweredInTurn policy server knock where
  refused check first := by
    simp only [Service.turn, Service.answerKnock, asks, Bool.not_true, Bool.false_eq_true, if_false]
    by_cases early : check = .room
    · subst early
      obtain ⟨session, admitted, -, -, full_iff⟩ := Check.exists_session first.2
      simp only [admitted, Service.call_handshake_of_hasTwo tidy (full_iff.mp first.1)]
      refine ⟨[.called _ (.handshake session) (.error (.spaceFull session))], ?_, rfl⟩
      exact fun report listed => ⟨session, _, List.mem_singleton.mp listed⟩
    · obtain ⟨error, refused, answer⟩ := first.exists_error early
      simp only [refused, answer]
      exact ⟨[], List.forall_mem_nil _, rfl⟩
  taken_in passed := by
    obtain ⟨session, admitted, nonempty, path, full_iff⟩ :=
      Check.exists_session fun check _ => passed check
    have room : ¬ server.world.HasTwo session := fun two => passed .room (full_iff.mpr two)
    have knocked : Service.turn ⟨Relay.hooks, policy⟩ server (.knock knock) =
        ({ server with
            tasks := server.tasks.set ⟨server.requests, knock.label⟩
              ⟨⟨⟨server.requests, knock.label⟩, session, knock.address⟩, .accepted⟩
            requests := server.requests + 1 },
          [.called ⟨server.requests, knock.label⟩ (.handshake session) (.ok ()),
            .answered ⟨server.requests, knock.label⟩ (.accepted session)]) := by
      simp only [Service.turn, Service.answerKnock, asks, Bool.not_true, Bool.false_eq_true,
        if_false, admitted, Service.call_handshake_of_room tidy room]
    rw [knocked]
    refine ⟨session, nonempty, path, rfl, fun meanwhile nobody stays => ?_⟩
    obtain ⟨tidy', room'⟩ :=
      room_takeTurns policy ⟨server.world, _, server.requests + 1⟩ tidy room nobody
    refine joins_of_room tidy' (waits_takeTurns ?_ (Nat.lt_succ_self _) nobody stays) room'
    exact Directory.get?_set_self _ _ _

end

/-! ## Answers one after the other -/

/-- The action that a request is. -/
def Knock.action (knock : Knock) : ClientAction :=
  .connect knock.label knock.address knock.request

/-- Nobody notices anything: the sockets are the same, the sessions with all that waits in
them, and the wires. -/
structure Untouched (before after : Server Relay) : Prop where
  sockets : after.sockets = before.sockets
  sessions : after.world.sessions = before.world.sessions
  wire : ∀ id, after.world.wire id = before.world.wire id

/-- How a server that does one thing after another answers a request. -/
structure AnsweredAtOnce (policy : AccessPolicy) (server : Server Relay) (knock : Knock) :
    Prop where
  /-- The first check that fails settles the answer, and nothing else comes of the request. -/
  refused : ∀ check : Check, check.IsFirst policy server.world knock.request →
    Untouched server (Service.step ⟨Relay.hooks, policy⟩ server knock.action).1 ∧
      ∃ calls, OnlyHandshakes ⟨server.requests, knock.label⟩ calls ∧
        (Service.step ⟨Relay.hooks, policy⟩ server knock.action).2 =
          calls ++ [.answered ⟨server.requests, knock.label⟩ check.answer]
  /-- Where no check fails the socket is open and the last member of its session. -/
  taken_in : (∀ check : Check, ¬ check.Fails policy server.world knock.request) →
    ∃ session : SessionId, session.text ≠ "" ∧ knock.request.path = "/call/" ++ session.text ∧
      (Service.step ⟨Relay.hooks, policy⟩ server knock.action).1.sockets =
        server.sockets ++ [⟨⟨server.requests, knock.label⟩, session, knock.address⟩] ∧
      ((Service.step ⟨Relay.hooks, policy⟩ server knock.action).1.world.session session).members =
        (server.world.session session).members ++
          [⟨⟨server.requests, knock.label⟩, session, knock.address⟩]

section

variable {policy : AccessPolicy} {server : Server Relay} {knock : Knock}

theorem connect_of_first (tidy : server.world.Tidy)
    (asks : knock.request.asksForUpgrade = true) {check : Check}
    (first : check.IsFirst policy server.world knock.request) :
    ∃ calls, OnlyHandshakes ⟨server.requests, knock.label⟩ calls ∧
      Service.act ⟨Relay.hooks, policy⟩ server knock.action =
        ({ server with requests := server.requests + 1 },
          calls ++ [.answered ⟨server.requests, knock.label⟩ check.answer]) := by
  simp only [Knock.action, Service.act, Service.connect, Service.receive, asks, Bool.not_true,
    Bool.false_eq_true, if_false]
  by_cases early : check = .room
  · subst early
    obtain ⟨session, admitted, -, -, full_iff⟩ := Check.exists_session first.2
    simp only [admitted, Service.call_handshake_of_hasTwo tidy (full_iff.mp first.1)]
    refine ⟨[.called _ (.handshake session) (.error (.spaceFull session))], ?_, rfl⟩
    exact fun report listed => ⟨session, _, List.mem_singleton.mp listed⟩
  · obtain ⟨error, refused, answer⟩ := first.exists_error early
    simp only [refused, answer]
    exact ⟨[], List.forall_mem_nil _, rfl⟩

theorem connect_of_room (tidy : server.world.Tidy) (asks : knock.request.asksForUpgrade = true)
    {session : SessionId} (admitted : knock.request.admission policy = .ok session)
    (room : ¬ server.world.HasTwo session) {connection : Connection}
    (this : connection = ⟨⟨server.requests, knock.label⟩, session, knock.address⟩) :
    Service.act ⟨Relay.hooks, policy⟩ server knock.action =
      (⟨server.world.after (.opened connection), server.sockets ++ [connection],
          server.requests + 1⟩,
        [.called connection.id (.handshake session) (.ok ()),
          .answered connection.id (.accepted session),
          .called connection.id (.opened connection) (.ok ())]) := by
  subst this
  simp only [Knock.action, Service.act, Service.connect, Service.receive, asks, Bool.not_true,
    Bool.false_eq_true, if_false, admitted, Service.call_handshake_of_room tidy room,
    Service.call_opened_of_room tidy ⟨_, session, _⟩ room]

/-- Nobody is hung up by an opening. -/
theorem unmarked_after_opened (inStep : InStep server) (rest : server.AtRest)
    (connection : Connection) (next : connection.id.serial = server.requests) :
    ∀ socket ∈ server.sockets ++ [connection],
      (server.world.after (.opened connection)).wires.isClosing socket.id = false := by
  intro socket open_
  refine (inStep.closing_after (inStep.moves_opened next) nofun socket.id).trans ?_
  rcases List.mem_append.mp open_ with earlier | newest
  · exact rest.unmarked socket earlier
  · rw [← Bool.not_eq_true]
    intro closes
    have below := inStep.closing_below _ closes
    rw [List.mem_singleton.mp newest, next] at below
    exact Nat.lt_irrefl _ below

/-- Deliveries leave the sessions alone. -/
theorem session_deliverAll (server : Server Relay) (sockets : List Connection) :
    (server.deliverAll sockets).1.world.session = server.world.session :=
  Server.deliverAll_induct (P := fun after => after.world.session = server.world.session)
    (fun _ _ same => same) sockets rfl

/-- What is no request for a WebSocket is counted, and that is all. -/
theorem connect_of_not_asks (service : Service Relay)
    (asks : knock.request.asksForUpgrade = false) :
    service.act server knock.action =
      ({ server with requests := server.requests + 1 },
        [.answered ⟨server.requests, knock.label⟩ .unanswered]) := by
  simp [Knock.action, Service.act, Service.connect, Service.receive, asks]

/-- Nobody notices a request that is only counted. -/
theorem untouched_of_counted (rest : server.AtRest) {action : ClientAction}
    {reports : List Report} (counted : Service.act ⟨Relay.hooks, policy⟩ server action =
      ({ server with requests := server.requests + 1 }, reports)) :
    Untouched server (Service.step ⟨Relay.hooks, policy⟩ server action).1 ∧
      (Service.step ⟨Relay.hooks, policy⟩ server action).2 = reports := by
  have still : Server.AtRest { server with requests := server.requests + 1 } :=
    ⟨rest.unmarked, rest.delivered⟩
  obtain ⟨wires, settled, same⟩ := Service.settle_of_atRest ⟨Relay.hooks, policy⟩ still
  simp only [Service.step, counted, settled, List.append_nil, and_true]
  exact ⟨rfl, rfl, same⟩

/-- A server that does one thing after another answers every request for a connection in one
of two ways. -/
theorem answeredAtOnce (inStep : InStep server) (rest : server.AtRest)
    (asks : knock.request.asksForUpgrade = true) : AnsweredAtOnce policy server knock where
  refused check first := by
    obtain ⟨calls, only, answered⟩ := connect_of_first inStep.tidy asks first
    obtain ⟨untouched, reports⟩ := untouched_of_counted rest answered
    exact ⟨untouched, calls, only, reports⟩
  taken_in passed := by
    obtain ⟨session, admitted, nonempty, path, full_iff⟩ :=
      Check.exists_session fun check _ => passed check
    have room : ¬ server.world.HasTwo session := fun two => passed .room (full_iff.mpr two)
    have connected := connect_of_room inStep.tidy asks admitted room rfl
    have unmarked := unmarked_after_opened inStep rest
      ⟨⟨server.requests, knock.label⟩, session, knock.address⟩ rfl
    have stepped : (Service.step ⟨Relay.hooks, policy⟩ server knock.action).1 =
        (Service.settle ⟨Relay.hooks, policy⟩
          (Service.act ⟨Relay.hooks, policy⟩ server knock.action).1).1 := rfl
    rw [stepped, connected, Service.settle_of_unmarked _ unmarked]
    refine ⟨session, nonempty, path, Server.sockets_deliverAll _ _, ?_⟩
    rw [session_deliverAll]
    exact World.members_after_opened inStep.tidy room

end

/-! ## Who meets whom -/

/-- Whoever was taken in has named the session in the request. -/
theorem HookContract.exists_path {policy : AccessPolicy} {knocks : List Knock}
    {id : ConnectionId} {log : List Told} {served : Bool}
    (contract : HookContract (LetIn policy knocks id) id log served) {connection : Connection}
    (taken : ⟨.opened connection, .ok ()⟩ ∈ log) :
    ∃ knock, knocks[id.serial]? = some knock ∧
      knock.request.path = "/call/" ++ connection.session.text := by
  have handshake := List.mem_of_head? (contract.let_in_before connection _ taken)
  obtain ⟨knock, listed, -, admitted⟩ := contract.let_in _ _ handshake
  exact ⟨knock, listed, Check.path_of_admission admitted⟩

/-- Two connections address one session if they were asked for with one path, and only then. -/
def MeetByPath (knocks : List Knock) (first second : Connection) : Prop :=
  ∃ one two, knocks[first.id.serial]? = some one ∧ knocks[second.id.serial]? = some two ∧
    (first.session = second.session ↔ one.request.path = two.request.path)

theorem meetByPath_of_exists_path {knocks : List Knock} {first second : Connection}
    (named : ∃ knock, knocks[first.id.serial]? = some knock ∧
      knock.request.path = "/call/" ++ first.session.text)
    (named' : ∃ knock, knocks[second.id.serial]? = some knock ∧
      knock.request.path = "/call/" ++ second.session.text) : MeetByPath knocks first second := by
  obtain ⟨one, listed, path⟩ := named
  obtain ⟨two, listed', path'⟩ := named'
  refine ⟨one, two, listed, listed', ?_⟩
  rw [path, path', String.append_right_inj]
  exact ⟨congrArg SessionId.text, fun same => congrArg SessionId.mk same⟩

/-! ## Every server -/

section

variable (configuration : PeerConfiguration) (policy : AccessPolicy)

/-- What a busy server with the relay behind it comes to after some turns. -/
def relayInTurns (turns : List Turn) : BusyServer Relay × List Report :=
  Service.takeTurns ⟨Relay.hooks, policy⟩ (.start (Relay.initial configuration)) turns

theorem tidy_relayInTurns (turns : List Turn) :
    (relayInTurns configuration policy turns).1.world.Tidy := by
  induction turns using List.reverseRecOn with
  | nil => exact ⟨rfl, Session.fits_new⟩
  | append_singleton past next ih =>
      rw [relayInTurns, Service.takeTurns_snoc]
      exact Service.world_turn (fun _ call _ tidy => tidy.after call)
        (fun _ wires tidy => tidy.withWires wires) ih

/-- What a gate does, whatever the policy is and whatever has happened before. -/
structure Gate : Prop where
  /-- There is a first check that fails or none fails. -/
  decided : ∀ world request, (∃ check : Check, check.IsFirst policy world request) ∨
    ∀ check : Check, ¬ check.Fails policy world request
  /-- Requests are answered so where connections take turns in any order, -/
  in_turns : ∀ turns (knock : Knock), knock.request.asksForUpgrade = true →
    AnsweredInTurn policy (relayInTurns configuration policy turns).1 knock
  /-- and where one thing is done after another. -/
  in_steps : ∀ actions (knock : Knock), knock.request.asksForUpgrade = true →
    AnsweredAtOnce policy (relayAfter configuration policy actions).1 knock
  /-- What is no request for a WebSocket, or has no target, gets no answer. Nothing but the
  count of requests is changed, in turns -/
  unread_in_turns : ∀ turns (knock : Knock), knock.request.asksForUpgrade = false →
    Service.turn ⟨Relay.hooks, policy⟩ (relayInTurns configuration policy turns).1
        (.knock knock) =
      ({ (relayInTurns configuration policy turns).1 with
          requests := (relayInTurns configuration policy turns).1.requests + 1 },
        [.answered ⟨(relayInTurns configuration policy turns).1.requests, knock.label⟩
          .unanswered])
  /-- and in steps. -/
  unread_in_steps : ∀ actions (knock : Knock), knock.request.asksForUpgrade = false →
    Untouched (relayAfter configuration policy actions).1
        (Service.step ⟨Relay.hooks, policy⟩ (relayAfter configuration policy actions).1
          knock.action).1 ∧
      (Service.step ⟨Relay.hooks, policy⟩ (relayAfter configuration policy actions).1
          knock.action).2 =
        [.answered ⟨(relayAfter configuration policy actions).1.requests, knock.label⟩
          .unanswered]
  /-- Two that are taken in at any times meet if their paths are the same. -/
  meet_in_turns : ∀ turns first second,
    ⟨.opened first, .ok ()⟩ ∈ told first.id (relayInTurns configuration policy turns).2 →
    ⟨.opened second, .ok ()⟩ ∈ told second.id (relayInTurns configuration policy turns).2 →
      MeetByPath (knocks turns) first second
  meet_in_steps : ∀ actions first second,
    ⟨.opened first, .ok ()⟩ ∈ told first.id (relayAfter configuration policy actions).2 →
    ⟨.opened second, .ok ()⟩ ∈ told second.id (relayAfter configuration policy actions).2 →
      MeetByPath (requested actions) first second

theorem gate_holds : Gate configuration policy where
  decided := fun _ _ => Check.exists_first_or_passed
  in_turns turns knock asks := answeredInTurn (tidy_relayInTurns configuration policy turns) asks
  in_steps actions knock asks :=
    answeredAtOnce (inStep_relayAfter configuration policy actions)
      (Service.atRest_run _ _ actions) asks
  unread_in_turns turns knock asks := by
    simp only [Service.turn, Service.answerKnock, asks, Bool.not_false, if_true]
  unread_in_steps actions knock asks :=
    untouched_of_counted (Service.atRest_run _ _ actions) (connect_of_not_asks _ asks)
  meet_in_turns turns first second taken taken' := by
    have course := course_takeTurns ⟨Relay.hooks, policy⟩ (Relay.initial configuration) turns
    exact meetByPath_of_exists_path ((course first.id).contract.exists_path taken)
      ((course second.id).contract.exists_path taken')
  meet_in_steps actions first second taken taken' := by
    have course := course_run ⟨Relay.hooks, policy⟩ (Relay.initial configuration) actions
    exact meetByPath_of_exists_path ((course first.id).contract.exists_path taken)
      ((course second.id).contract.exists_path taken')

end

end Rendezvous
