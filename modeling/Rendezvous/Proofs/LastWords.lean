/-
# Last words

A server with the relay behind it ends a socket for one of two reasons: its client has sent
a text that is no object, or the other socket of its session has ended. In both cases the
client receives all that was ever put on its wire and then one close frame that tells the
reason, and nothing after it. Nothing else ends a socket but its own client.
-/

import Rendezvous.Proofs.Gate
import Rendezvous.Proofs.Hangups

namespace Rendezvous

/-! ## Ends -/

namespace ClientAction

/-- A text is sent that is no object. -/
def Breaks (action : ClientAction) (id : ConnectionId) : Prop :=
  ∃ content, action = .text id content ∧ ¬ ∃ members, content ∈ Json.objectTexts members

/-- A client puts an end to its socket, by leaving or by breaking the rules. -/
def Leaves (action : ClientAction) (id : ConnectionId) : Prop :=
  action.ends? = some id ∨ action.Breaks id

/-- Whose socket an action is about. -/
def actor? : ClientAction → Option ConnectionId
  | .connect _ _ _ => none
  | .text id _ | .aside id | .close id _ | .vanish id | .garbage id => some id

theorem actor?_of_leaves {action : ClientAction} {id : ConnectionId} (leaves : action.Leaves id) :
    action.actor? = some id := by
  rcases leaves with ends | ⟨content, rfl, -⟩
  · cases action <;> cases ends <;> rfl
  · rfl

/-- An action is about one socket. -/
theorem Leaves.id_eq {action : ClientAction} {first second : ConnectionId}
    (one : action.Leaves first) (two : action.Leaves second) : first = second :=
  Option.some.inj ((actor?_of_leaves one).symm.trans (actor?_of_leaves two))

section

variable {σ : Type} {service : Service σ} {server : Server σ} {action : ClientAction}
  {id : ConnectionId} (actor : action.actor? = some id)

include actor

/-- Nothing comes of what a client does whose socket is not open. -/
theorem act_of_absent (absent : server.socket? id = none) :
    service.act server action = (server, []) := by
  cases action with
  | connect label address request => cases actor
  | text about content | aside about | close about frame | vanish about | garbage about =>
      cases actor
      simp only [Service.act, absent]

theorem act_of_open {socket : Connection} (found : server.socket? id = some socket) :
    service.act server action = service.react socket server action := by
  cases action with
  | connect label address request => cases actor
  | text about content | aside about | close about frame | vanish about | garbage about =>
      cases actor
      simp only [Service.act, found]

end

end ClientAction

variable {configuration : PeerConfiguration} {server server' : Server Relay}
  {reports reports' : List Report}

/-- Two members of one session are paired. -/
theorem World.paired_of_members {world : World Relay} {first second : Connection}
    (one : world.Member first) (two : world.Member second)
    (together : second.session = first.session) (apart : second.id ≠ first.id) :
    world.Paired first second := by
  obtain ⟨session, present, inside⟩ := one
  obtain ⟨session', present', inside'⟩ := two
  rw [together] at present'
  cases present.symm.trans present'
  exact ⟨fun same => apart (congrArg Connection.id same.symm), _, session, present, inside, inside'⟩

/-! ## Requests -/

/-- Handshakes leave no trace but their reports. -/
theorem OnlyHandshakes.silent {about : ConnectionId} {calls : List Report}
    (only : OnlyHandshakes about calls) :
    (∀ id, received id calls = []) ∧
      ∀ world : World Relay, world.afterAll (callsMade calls) = world := by
  induction calls with
  | nil => exact ⟨fun _ => rfl, fun _ => rfl⟩
  | cons first rest ih =>
      obtain ⟨⟨session, result, rfl⟩, others⟩ := List.forall_mem_cons.mp only
      obtain ⟨nothing, still⟩ := ih others
      refine ⟨nothing, fun world => ?_⟩
      have unchanged : world.after (.handshake session) = world :=
        Relay.world_handshake session world
      show (world.after (.handshake session)).afterAll (callsMade rest) = world
      rw [unchanged, still]

/-- Who asks is not let in by asking. -/
theorem OnlyHandshakes.admitted_eq_nil {about : ConnectionId} {calls : List Report}
    (only : OnlyHandshakes about calls) : admitted calls = [] := by
  rw [admitted, List.filterMap_eq_nil_iff]
  intro report listed
  obtain ⟨session, result, rfl⟩ := only report listed
  rfl

namespace Tracks

variable (tracks : Tracks configuration server reports)

include tracks

/-- A request is asked about and answered. -/
theorem answered {id : ConnectionId} {calls : List Report}
    (only : OnlyHandshakes id calls) (reception : Reception) :
    Advances configuration server reports server
      (reports ++ (calls ++ [.answered id reception])) := by
  obtain ⟨nothing, still⟩ := only.silent
  apply tracks.quiet
  · intro other
    rw [received_append, nothing]
    rfl
  · intro world
    rw [callsMade_append]
    exact (congrArg world.afterAll (List.append_nil _)).trans (still world)

/-- A socket is opened that there is room for. -/
theorem opened {connection : Connection} (next : connection.id.serial = server.requests)
    (room : ¬ server.world.HasTwo connection.session) :
    Advances configuration server reports
      ⟨server.world.after (.opened connection), server.sockets ++ [connection],
        server.requests + 1⟩
      (reports ++ [.called connection.id (.opened connection) (.ok ())]) := by
  have taken := World.result_opened_of_room tracks.inStep.tidy room
  have new : server.Expects connection.id := .inr (Nat.le_of_eq next.symm)
  refine tracks.call ?_ (tracks.inStep.taken_in connection next taken) ?_
  · rintro other ⟨⟩
    exact new
  · rintro id (listed | later)
    · rw [List.map_append, List.mem_append] at listed
      refine listed.elim .inl fun newest => ?_
      rw [List.mem_singleton.mp newest]
      exact new
    · exact .inr (Nat.le_of_succ_le later)

end Tracks

/-! ## What an action leads to at once -/

/-- No socket ends at once, and none will. -/
structure Stays (sockets : List Connection) (acted : Server Relay) : Prop where
  subset : sockets ⊆ acted.sockets
  unmarked : ∀ socket ∈ sockets, (acted.world.wire socket.id).closing = false

/-- One socket ends at once, and the other of its session is marked. -/
structure Departs (sockets : List Connection) (acted : Server Relay) (leaver : Connection) :
    Prop where
  mem_iff : ∀ socket ∈ sockets, socket ∈ acted.sockets ↔ socket.id ≠ leaver.id
  closing_iff : ∀ socket ∈ sockets, socket.id ≠ leaver.id →
    ((acted.world.wire socket.id).closing = true ↔ socket.session = leaver.session)
  gone : ¬ acted.Expects leaver.id

/-- What a request for a connection leads to at once. -/
inductive Connected (server : Server Relay) (knock : Knock) : Server Relay × List Report → Prop
  | turned_away {calls : List Report} {reception : Reception}
    (only : OnlyHandshakes ⟨server.requests, knock.label⟩ calls)
    (refused : ∀ session, reception ≠ .accepted session) :
    Connected server knock ({ server with requests := server.requests + 1 },
      calls ++ [.answered ⟨server.requests, knock.label⟩ reception])
  | let_in {connection : Connection} (next : connection.id = ⟨server.requests, knock.label⟩)
    (room : ¬ server.world.HasTwo connection.session) :
    Connected server knock
      (⟨server.world.after (.opened connection), server.sockets ++ [connection],
          server.requests + 1⟩,
        [.called connection.id (.handshake connection.session) (.ok ()),
          .answered connection.id (.accepted connection.session),
          .called connection.id (.opened connection) (.ok ())])

section

variable (policy : AccessPolicy)

theorem connected_act (tidy : server.world.Tidy) (knock : Knock) :
    Connected server knock (Service.act ⟨Relay.hooks, policy⟩ server knock.action) := by
  by_cases asks : knock.request.asksForUpgrade = true
  · have decided : (∃ check : Check, check.IsFirst policy server.world knock.request) ∨
        ∀ check : Check, ¬ check.Fails policy server.world knock.request :=
      Check.exists_first_or_passed
    rcases decided with ⟨check, first⟩ | passed
    · obtain ⟨calls, only, answered⟩ := connect_of_first tidy asks first
      rw [answered]
      refine .turned_away only fun session accepted => ?_
      cases check <;> cases accepted
    · obtain ⟨session, admitted, -, -, full_iff⟩ :=
        Check.exists_session fun check _ => passed check
      have room : ¬ server.world.HasTwo session := fun two => passed .room (full_iff.mpr two)
      rw [connect_of_room tidy asks admitted room rfl]
      exact .let_in rfl room
  · rw [connect_of_not_asks _ (Bool.eq_false_of_not_eq_true asks)]
    have nobody : OnlyHandshakes ⟨server.requests, knock.label⟩ [] := List.forall_mem_nil _
    refine .turned_away nobody fun session accepted => ?_
    cases accepted

theorem Tracks.connect (tracks : Tracks configuration server reports) (rest : server.AtRest)
    (knock : Knock) :
    Advances configuration server reports
        (Service.act ⟨Relay.hooks, policy⟩ server knock.action).1
        (reports ++ (Service.act ⟨Relay.hooks, policy⟩ server knock.action).2) ∧
      Stays server.sockets (Service.act ⟨Relay.hooks, policy⟩ server knock.action).1 := by
  have connected := connected_act policy tracks.inStep.tidy knock
  generalize Service.act ⟨Relay.hooks, policy⟩ server knock.action = outcome at connected ⊢
  cases connected with
  | @turned_away calls reception only refused =>
      have reply := tracks.answered only reception
      exact ⟨reply.trans reply.tracks.counted, ⟨List.Subset.refl _, rest.unmarked⟩⟩
  | @let_in connection next room =>
      have asked : OnlyHandshakes connection.id
          [.called connection.id (.handshake connection.session) (.ok ())] :=
        fun report listed => ⟨connection.session, _, List.mem_singleton.mp listed⟩
      have number : connection.id.serial = server.requests := congrArg ConnectionId.serial next
      have reply := tracks.answered asked (.accepted connection.session)
      have entered := reply.tracks.opened number room
      rw [List.append_assoc] at entered
      refine ⟨reply.trans entered, List.subset_append_left _ _, fun socket open_ => ?_⟩
      exact unmarked_after_opened tracks.inStep rest connection number socket
        (List.mem_append_left _ open_)

/-- Who ends leaves the other of its session marked. -/
theorem InStep.departs_finish (inStep : InStep server)
    (unmarked : ∀ socket ∈ server.sockets, (server.world.wire socket.id).closing = false)
    {leaver : Connection} (open_ : leaver ∈ server.sockets) (farewell : Farewell) :
    Departs server.sockets
      (Service.finish ⟨Relay.hooks, policy⟩ leaver farewell server).1 leaver where
  mem_iff socket here := by
    rw [Service.sockets_finish, List.mem_filter, decide_eq_true_iff]
    exact and_iff_right here
  closing_iff socket here apart := by
    have members (socket : Connection) (here : socket ∈ server.sockets) :
        server.world.Member socket := (inStep.member_iff socket).mpr ⟨here, unmarked socket here⟩
    rw [closing_finish, (inStep.moves_closed open_).closing_iff inStep.staged, unmarked socket here]
    constructor
    · rintro (nothing | ⟨connection, peer, closed, together, same⟩)
      · cases nothing
      · cases closed
        have peer_open := inStep.mem_sockets (together.symm.member inStep.staged)
        rw [← inStep.eq_of_id peer_open here same]
        exact (together.sessions_eq inStep.staged).1
    · intro together
      exact .inr ⟨leaver, socket, rfl,
        World.paired_of_members (members leaver open_) (members socket here) together apart, rfl⟩
  gone := inStep.not_expects_finish policy open_ farewell

/-- What comes at once of an action at a server with nothing left to do. -/
inductive Acted (configuration : PeerConfiguration) (sockets : List Connection)
    (action : ClientAction) (acted : Server Relay) (reports : List Report) : Prop
  | stays (stays : Stays sockets acted)
    (nobody : ∀ socket ∈ sockets, ¬ action.Leaves socket.id)
  | departs {leaver : Connection} (open_ : leaver ∈ sockets)
    (leaves : action.Leaves leaver.id) (departs : Departs sockets acted leaver)
    (last : action.Breaks leaver.id →
      LetGoWith configuration leaver.id (some .invalidMessage) reports)

namespace InStep

variable (inStep : InStep server) {socket : Connection} (open_ : socket ∈ server.sockets)
  (content : Octets)

include inStep open_

/-- A text marks nobody. -/
theorem closing_after_message (id : ConnectionId) :
    ((server.world.after (.message socket content)).wire id).closing =
      (server.world.wire id).closing :=
  inStep.closing_after (inStep.moves_message open_ content) nofun id

/-- The hook takes the objects that come from an open socket, and nothing else. -/
theorem result_message_cases :
    (∃ members, content ∈ Json.objectTexts members) ∧
        server.world.result (.message socket content) = .ok () ∨
      (¬ ∃ members, content ∈ Json.objectTexts members) ∧
        ∃ cause place,
          server.world.result (.message socket content) = .error (.protocol cause place) := by
  by_cases object : ∃ members, content ∈ Json.objectTexts members
  · obtain ⟨members, derived⟩ := object
    have taken := (World.result_eq_ok_iff inStep.sound socket).mpr
      ⟨members, derived, fun _ => inStep.attended_of_mem open_⟩
    exact .inl ⟨⟨members, derived⟩, taken⟩
  · exact .inr ⟨object, (World.result_eq_protocol_iff inStep.sound socket).mpr object⟩

end InStep

namespace Tracks

variable (tracks : Tracks configuration server reports) {socket : Connection}
  (open_ : socket ∈ server.sockets)

include tracks open_

theorem heard (content : Octets) (result : Except SignalingError Unit) :
    Advances configuration server reports
      { server with world := server.world.after (.message socket content) }
      (reports ++ [.called socket.id (.message socket content) result]) := by
  refine tracks.call ?_ (tracks.inStep.heard (tracks.inStep.moves_message open_ content))
    fun _ here => here
  rintro connection ⟨⟩
  exact Server.expects_of_mem open_

variable
  (unmarked : ∀ socket ∈ server.sockets, (server.world.wire socket.id).closing = false)

include unmarked

/-- A socket comes to its end, and what its client did was the reason. -/
theorem departed {action : ClientAction} (farewell : Farewell) (leaves : action.Leaves socket.id)
    (last : action.Breaks socket.id → farewell = .frame (some .invalidMessage)) :
    Acted configuration server.sockets action
      (Service.finish ⟨Relay.hooks, policy⟩ socket farewell server).1
      (reports ++ (Service.finish ⟨Relay.hooks, policy⟩ socket farewell server).2) := by
  refine .departs open_ leaves
    (tracks.inStep.departs_finish policy unmarked open_ farewell) fun breaks => ?_
  rw [last breaks]
  exact tracks.letGoWith policy open_ _

theorem text (content : Octets) :
    Advances configuration server reports
        (Service.react ⟨Relay.hooks, policy⟩ socket server (.text socket.id content)).1
        (reports ++
          (Service.react ⟨Relay.hooks, policy⟩ socket server (.text socket.id content)).2) ∧
      Acted configuration server.sockets (.text socket.id content)
        (Service.react ⟨Relay.hooks, policy⟩ socket server (.text socket.id content)).1
        (reports ++
          (Service.react ⟨Relay.hooks, policy⟩ socket server (.text socket.id content)).2) := by
  have unmarked' : ∀ other ∈ server.sockets,
      ((server.world.after (.message socket content)).wire other.id).closing = false := by
    intro other here
    rw [tracks.inStep.closing_after_message open_]
    exact unmarked other here
  rcases tracks.inStep.result_message_cases open_ content with
    ⟨object, taken⟩ | ⟨broken, cause, place, refused⟩
  · have reacted : Service.react ⟨Relay.hooks, policy⟩ socket server (.text socket.id content) =
        ({ server with world := server.world.after (.message socket content) },
          [.called socket.id (.message socket content) (.ok ())]) := by
      rw [World.result] at taken
      simp only [Service.react, Service.call, taken]
      rfl
    rw [reacted]
    refine ⟨tracks.heard open_ content _, .stays ⟨List.Subset.refl _, unmarked'⟩ ?_⟩
    rintro other - (ends | ⟨sent, same, broken⟩)
    · cases ends
    · injection same with _ same
      exact broken (same ▸ object)
  · have heard := tracks.heard open_ content (.error (.protocol cause place))
    have ended := heard.trans (heard.tracks.finish policy open_ (.frame (some .invalidMessage)))
    have departed := heard.tracks.departed policy open_ unmarked'
      (.frame (some .invalidMessage)) (.inr ⟨content, rfl, broken⟩) fun _ => rfl
    have reacted : Service.react ⟨Relay.hooks, policy⟩ socket server (.text socket.id content) =
        ((Service.finish ⟨Relay.hooks, policy⟩ socket (.frame (some .invalidMessage))
            { server with world := server.world.after (.message socket content) }).1,
          .called socket.id (.message socket content) (.error (.protocol cause place)) ::
            (Service.finish ⟨Relay.hooks, policy⟩ socket (.frame (some .invalidMessage))
              { server with world := server.world.after (.message socket content) }).2) := by
      rw [World.result] at refused
      simp only [Service.react, Service.call, refused]
      rfl
    rw [reacted, List.append_cons]
    exact ⟨ended, departed⟩

theorem react {action : ClientAction} (actor : action.actor? = some socket.id) :
    Advances configuration server reports
        (Service.react ⟨Relay.hooks, policy⟩ socket server action).1
        (reports ++ (Service.react ⟨Relay.hooks, policy⟩ socket server action).2) ∧
      Acted configuration server.sockets action
        (Service.react ⟨Relay.hooks, policy⟩ socket server action).1
        (reports ++ (Service.react ⟨Relay.hooks, policy⟩ socket server action).2) := by
  cases action with
  | connect label address request => cases actor
  | text id content =>
      cases actor
      exact tracks.text policy open_ unmarked content
  | aside id =>
      have same : reports ++ (Service.react ⟨Relay.hooks, policy⟩ socket server (.aside id)).2 =
        reports := List.append_nil reports
      rw [same]
      refine ⟨tracks.refl, .stays ⟨List.Subset.refl _, unmarked⟩ ?_⟩
      rintro other - (⟨⟨⟩⟩ | ⟨_, ⟨⟩, _⟩)
  | close id frame | vanish id | garbage id =>
      refine ⟨tracks.finish policy open_ _, tracks.departed policy open_ unmarked _ (.inl actor) ?_⟩
      rintro ⟨_, ⟨⟩, _⟩

end Tracks

theorem Tracks.act (tracks : Tracks configuration server reports) (rest : server.AtRest)
    (action : ClientAction) :
    Advances configuration server reports (Service.act ⟨Relay.hooks, policy⟩ server action).1
        (reports ++ (Service.act ⟨Relay.hooks, policy⟩ server action).2) ∧
      Acted configuration server.sockets action
        (Service.act ⟨Relay.hooks, policy⟩ server action).1
        (reports ++ (Service.act ⟨Relay.hooks, policy⟩ server action).2) := by
  cases actor : action.actor? with
  | none =>
      cases action with
      | connect label address request =>
          obtain ⟨advances, stays⟩ := tracks.connect policy rest ⟨label, address, request⟩
          refine ⟨advances, .stays stays fun socket _ leaves => ?_⟩
          cases ClientAction.actor?_of_leaves leaves
      | text id content | aside id | close id frame | vanish id | garbage id => cases actor
  | some id =>
      cases found : server.socket? id with
      | none =>
          rw [ClientAction.act_of_absent actor found, List.append_nil]
          refine ⟨tracks.refl, .stays ⟨List.Subset.refl _, rest.unmarked⟩ ?_⟩
          intro socket open_ leaves
          cases actor.symm.trans (ClientAction.actor?_of_leaves leaves)
          cases found.symm.trans
            ((Server.socket?_eq_some_iff tracks.inStep.numbered).mpr ⟨open_, rfl⟩)
      | some socket =>
          rw [ClientAction.act_of_open actor found]
          obtain ⟨open_, rfl⟩ := (Server.socket?_eq_some_iff tracks.inStep.numbered).mp found
          exact tracks.react policy open_ rest.unmarked actor

end

/-! ## What a step comes to -/

/-- The other socket of a session ends through its client. -/
def ForsakenBy (sockets : List Connection) (action : ClientAction) (socket : Connection) : Prop :=
  ∃ other ∈ sockets, other.id ≠ socket.id ∧ other.session = socket.session ∧ action.Leaves other.id

/-- What a step comes to for those whose sockets were open before it. -/
structure Stepped (configuration : PeerConfiguration) (sockets : List Connection)
    (action : ClientAction) (stepped : Server Relay) (reports : List Report) : Prop where
  not_mem_iff : ∀ socket ∈ sockets, socket ∉ stepped.sockets ↔
    action.Leaves socket.id ∨ ForsakenBy sockets action socket
  gone : ∀ socket ∈ sockets, socket ∉ stepped.sockets → ¬ stepped.Expects socket.id
  breach : ∀ socket ∈ sockets, action.Breaks socket.id →
    LetGoWith configuration socket.id (some .invalidMessage) reports
  forsaken : ∀ socket ∈ sockets, ForsakenBy sockets action socket →
    LetGoWith configuration socket.id (some .peerLeft) reports

section

variable {acted : Server Relay} {action : ClientAction} (policy : AccessPolicy)

/-- Who stays at once stays when all is settled. -/
theorem Stays.stepped {sockets : List Connection} (tracks : Tracks configuration acted reports)
    (stays : Stays sockets acted) (nobody : ∀ socket ∈ sockets, ¬ action.Leaves socket.id) :
    Stepped configuration sockets action (Service.settle ⟨Relay.hooks, policy⟩ acted).1
      (reports ++ (Service.settle ⟨Relay.hooks, policy⟩ acted).2) := by
  have still (socket : Connection) (open_ : socket ∈ sockets) :
      socket ∈ (Service.settle ⟨Relay.hooks, policy⟩ acted).1.sockets :=
    (tracks.mem_settle_iff policy (stays.subset open_)).mpr (stays.unmarked socket open_)
  have loyal (socket : Connection) : ¬ ForsakenBy sockets action socket :=
    fun ⟨other, open_, _, _, leaves⟩ => nobody other open_ leaves
  constructor
  case not_mem_iff =>
    intro socket open_
    exact iff_of_false (not_not_intro (still socket open_))
      (not_or_intro (nobody socket open_) (loyal socket))
  case gone => exact fun socket open_ ended => absurd (still socket open_) ended
  case breach => exact fun socket open_ breaks => absurd (.inr breaks) (nobody socket open_)
  case forsaken => exact fun socket _ forsaken => absurd forsaken (loyal socket)

/-- Who is left by the other of the session is ended when all is settled. -/
theorem Departs.stepped (inStep : InStep server) (tracks : Tracks configuration acted reports)
    {leaver : Connection} (here : leaver ∈ server.sockets) (leaves : action.Leaves leaver.id)
    (departs : Departs server.sockets acted leaver)
    (last : action.Breaks leaver.id →
      LetGoWith configuration leaver.id (some .invalidMessage) reports) :
    Stepped configuration server.sockets action (Service.settle ⟨Relay.hooks, policy⟩ acted).1
      (reports ++ (Service.settle ⟨Relay.hooks, policy⟩ acted).2) := by
  have settles := tracks.settle policy
  have forsaken_iff (socket : Connection) (open_ : socket ∈ server.sockets) :
      ForsakenBy server.sockets action socket ↔
        socket.id ≠ leaver.id ∧ socket.session = leaver.session := by
    constructor
    · rintro ⟨other, listed, apart, together, forsakes⟩
      have same := inStep.eq_of_id listed here (forsakes.id_eq leaves)
      rw [same] at apart together
      exact ⟨Ne.symm apart, together.symm⟩
    · rintro ⟨apart, together⟩
      exact ⟨leaver, here, Ne.symm apart, together.symm, leaves⟩
  have ended_iff (socket : Connection) (open_ : socket ∈ server.sockets)
      (apart : socket.id ≠ leaver.id) :
      socket ∉ (Service.settle ⟨Relay.hooks, policy⟩ acted).1.sockets ↔
        socket.session = leaver.session := by
    rw [tracks.mem_settle_iff policy ((departs.mem_iff socket open_).mpr apart),
      Bool.not_eq_false, departs.closing_iff socket open_ apart]
  have departed (socket : Connection) (open_ : socket ∈ server.sockets)
      (same : socket.id = leaver.id) : ¬ acted.Expects socket.id := same ▸ departs.gone
  constructor
  case not_mem_iff =>
    intro socket open_
    rw [forsaken_iff socket open_]
    by_cases same : socket.id = leaver.id
    · refine iff_of_true (fun still => ?_) (.inl (same ▸ leaves))
      exact (departs.mem_iff socket open_).mp (settles.sockets still) same
    · rw [ended_iff socket open_ same]
      refine ⟨fun together => .inr ⟨same, together⟩, ?_⟩
      rintro (other | ⟨-, together⟩)
      · exact absurd (other.id_eq leaves) same
      · exact together
  case gone =>
    intro socket open_ ended
    by_cases same : socket.id = leaver.id
    · exact fun expected => departed socket open_ same (settles.advances.expects _ expected)
    · exact settles.not_expects tracks.inStep ((departs.mem_iff socket open_).mpr same) ended
  case breach =>
    intro socket open_ breaks
    have same := ClientAction.Leaves.id_eq (.inr breaks) leaves
    refine settles.advances.letGoWith (departed socket open_ same) ?_
    rw [same] at breaks ⊢
    exact last breaks
  case forsaken =>
    intro socket open_ forsaken
    obtain ⟨apart, together⟩ := (forsaken_iff socket open_).mp forsaken
    exact settles.ended socket ((departs.mem_iff socket open_).mpr apart)
      ((ended_iff socket open_ apart).mpr together)

theorem Tracks.step (tracks : Tracks configuration server reports) (rest : server.AtRest)
    (action : ClientAction) :
    Advances configuration server reports (Service.step ⟨Relay.hooks, policy⟩ server action).1
        (reports ++ (Service.step ⟨Relay.hooks, policy⟩ server action).2) ∧
      Stepped configuration server.sockets action
        (Service.step ⟨Relay.hooks, policy⟩ server action).1
        (reports ++ (Service.step ⟨Relay.hooks, policy⟩ server action).2) := by
  obtain ⟨advances, acted⟩ := tracks.act policy rest action
  have parts : reports ++ (Service.step ⟨Relay.hooks, policy⟩ server action).2 =
      reports ++ (Service.act ⟨Relay.hooks, policy⟩ server action).2 ++
        (Service.settle ⟨Relay.hooks, policy⟩
          (Service.act ⟨Relay.hooks, policy⟩ server action).1).2 :=
    (List.append_assoc _ _ _).symm
  rw [parts]
  refine ⟨advances.trans (advances.tracks.settle policy).advances, ?_⟩
  cases acted with
  | stays stays nobody => exact stays.stepped policy advances.tracks nobody
  | departs here leaves departs last =>
      exact departs.stepped policy tracks.inStep advances.tracks here leaves last

/-- Who is let in has an open socket when all is settled. -/
theorem Tracks.exists_socket_of_admitted (tracks : Tracks configuration server reports)
    (rest : server.AtRest) (action : ClientAction) {id : ConnectionId} {session : SessionId}
    (let_in : (id, session) ∈ admitted (Service.step ⟨Relay.hooks, policy⟩ server action).2) :
    ∃ socket ∈ (Service.step ⟨Relay.hooks, policy⟩ server action).1.sockets,
      socket.id = id ∧ socket.session = session := by
  have at_once : (id, session) ∈ admitted (Service.act ⟨Relay.hooks, policy⟩ server action).2 := by
    change (id, session) ∈ admitted (_ ++ (Service.settle ⟨Relay.hooks, policy⟩ _).2) at let_in
    rwa [admitted_append, admitted_settle, List.append_nil] at let_in
  have settled : (Service.step ⟨Relay.hooks, policy⟩ server action).1 =
      (Service.settle ⟨Relay.hooks, policy⟩
        (Service.act ⟨Relay.hooks, policy⟩ server action).1).1 := rfl
  rw [settled]
  cases action with
  | text about content | aside about | close about frame | vanish about | garbage about =>
      simp only [Service.act] at at_once
      split at at_once
      · cases at_once
      · rw [admitted_react] at at_once
        cases at_once
  | connect label address request =>
      have connected := connected_act policy tracks.inStep.tidy ⟨label, address, request⟩
      rw [Knock.action] at connected
      generalize Service.act ⟨Relay.hooks, policy⟩ server (.connect label address request) = outcome
        at connected at_once ⊢
      cases connected with
      | @turned_away calls reception only refused =>
          rw [admitted_append, only.admitted_eq_nil] at at_once
          cases reception with
          | accepted session => exact absurd rfl (refused session)
          | unanswered | refused status body => cases at_once
      | @let_in connection next room =>
          have unmarked := unmarked_after_opened tracks.inStep rest connection
            (congrArg ConnectionId.serial next)
          obtain ⟨rfl, rfl⟩ := Prod.mk.inj (List.mem_singleton.mp at_once)
          rw [Service.settle_of_unmarked _ unmarked, Server.sockets_deliverAll]
          exact ⟨connection, List.mem_append_right _ List.mem_cons_self, rfl, rfl⟩

end

/-! ## Runs -/

section

variable (configuration : PeerConfiguration) (policy : AccessPolicy)

theorem relayAfter_snoc (past : List ClientAction) (action : ClientAction) :
    relayAfter configuration policy (past ++ [action]) =
      ((Service.step ⟨Relay.hooks, policy⟩ (relayAfter configuration policy past).1 action).1,
        (relayAfter configuration policy past).2 ++
          (Service.step ⟨Relay.hooks, policy⟩
            (relayAfter configuration policy past).1 action).2) :=
  Service.run_snoc _ _ past action

theorem tracks_start :
    Tracks configuration (.start (Relay.initial configuration)) [] where
  inStep := inStep_start configuration
  twins := ⟨rfl, rfl, rfl, rfl, fun _ => rfl, fun _ _ => rfl⟩
  stay _ := rfl
  account _ _ := rfl

theorem tracks_relayAfter (actions : List ClientAction) :
    Tracks configuration (relayAfter configuration policy actions).1
      (relayAfter configuration policy actions).2 := by
  induction actions using List.reverseRecOn with
  | nil => exact tracks_start configuration
  | append_singleton past action ih =>
      rw [relayAfter_snoc]
      exact (ih.step policy (Service.atRest_run _ _ past) action).1.tracks

theorem advances_relayAfter (past rest : List ClientAction) :
    Advances configuration (relayAfter configuration policy past).1
      (relayAfter configuration policy past).2 (relayAfter configuration policy (past ++ rest)).1
      (relayAfter configuration policy (past ++ rest)).2 := by
  induction rest using List.reverseRecOn with
  | nil =>
      rw [List.append_nil]
      exact (tracks_relayAfter configuration policy past).refl
  | append_singleton middle action ih =>
      rw [← List.append_assoc, relayAfter_snoc]
      exact ih.trans (ih.tracks.step policy (Service.atRest_run _ _ (past ++ middle)) action).1

theorem stepped_relayAfter (past : List ClientAction) (action : ClientAction) :
    Stepped configuration (relayAfter configuration policy past).1.sockets action
      (relayAfter configuration policy (past ++ [action])).1
      (relayAfter configuration policy (past ++ [action])).2 := by
  rw [relayAfter_snoc]
  exact ((tracks_relayAfter configuration policy past).step policy
    (Service.atRest_run _ _ past) action).2

/-- A socket is open until a step ends it, and then it is gone for good. -/
theorem exists_end_of_admitted {actions : List ClientAction} {id : ConnectionId}
    {session : SessionId}
    (let_in : (id, session) ∈ admitted (relayAfter configuration policy actions).2) :
    ∃ socket : Connection, socket.id = id ∧ socket.session = session ∧
      (socket ∈ (relayAfter configuration policy actions).1.sockets ∨
        ∃ past action rest, actions = past ++ action :: rest ∧
          socket ∈ (relayAfter configuration policy past).1.sockets ∧
          socket ∉ (relayAfter configuration policy (past ++ [action])).1.sockets) := by
  induction actions using List.reverseRecOn with
  | nil => cases let_in
  | append_singleton past action ih =>
      have reported := congrArg Prod.snd (relayAfter_snoc configuration policy past action)
      rw [reported, admitted_append, List.mem_append] at let_in
      rcases let_in with earlier | now
      · obtain ⟨socket, same, address, open_ | ⟨before, last, rest, rfl, ended⟩⟩ := ih earlier
        · refine ⟨socket, same, address, ?_⟩
          by_cases still :
              socket ∈ (relayAfter configuration policy (past ++ [action])).1.sockets
          · exact .inl still
          · exact .inr ⟨past, action, [], rfl, open_, still⟩
        · refine ⟨socket, same, address, .inr ⟨before, last, rest ++ [action], ?_, ended⟩⟩
          rw [List.append_assoc, List.cons_append]
      · obtain ⟨socket, open_, same, address⟩ :=
          (tracks_relayAfter configuration policy past).exists_socket_of_admitted policy
            (Service.atRest_run _ _ past) action now
        rw [relayAfter_snoc]
        exact ⟨socket, same, address, .inl open_⟩

/-- How a server parts with its clients. -/
structure LastWords : Prop where
  /-- As long as a socket is open, all that was ever put on its wire has reached its client,
  and no close frame has. -/
  meanwhile : ∀ actions, ∀ socket ∈ (relayAfter configuration policy actions).1.sockets,
    received socket.id (relayAfter configuration policy actions).2 =
      (queued configuration socket.id (relayAfter configuration policy actions).2).map .message
  /-- A step ends the sockets whose clients leave or break the rules, the other sockets of
  their sessions, and no others. -/
  ended_iff : ∀ past action, ∀ socket ∈ (relayAfter configuration policy past).1.sockets,
    socket ∉ (relayAfter configuration policy (past ++ [action])).1.sockets ↔
      action.Leaves socket.id ∨
        ForsakenBy (relayAfter configuration policy past).1.sockets action socket
  /-- Who broke the rules is told so, whatever comes after it, -/
  breach : ∀ past action rest, ∀ socket ∈ (relayAfter configuration policy past).1.sockets,
    action.Breaks socket.id → LetGoWith configuration socket.id (some .invalidMessage)
      (relayAfter configuration policy (past ++ action :: rest)).2
  /-- and whose partner has ended is told that. -/
  forsaken : ∀ past action rest, ∀ socket ∈ (relayAfter configuration policy past).1.sockets,
    ForsakenBy (relayAfter configuration policy past).1.sockets action socket →
      LetGoWith configuration socket.id (some .peerLeft)
        (relayAfter configuration policy (past ++ action :: rest)).2
  /-- Whoever was let in has an open socket, has ended it, or was told why it was ended. -/
  fates : ∀ actions id session,
    (id, session) ∈ admitted (relayAfter configuration policy actions).2 →
      ∃ socket : Connection, socket.id = id ∧ socket.session = session ∧
        (socket ∈ (relayAfter configuration policy actions).1.sockets ∨
          ∃ past action rest, actions = past ++ action :: rest ∧
            socket ∈ (relayAfter configuration policy past).1.sockets ∧
            (action.ends? = some id ∨
              action.Breaks id ∧ LetGoWith configuration id (some .invalidMessage)
                (relayAfter configuration policy actions).2 ∨
              ForsakenBy (relayAfter configuration policy past).1.sockets action socket ∧
                LetGoWith configuration id (some .peerLeft)
                  (relayAfter configuration policy actions).2))

/-- What is said last stays the last. -/
theorem letGoWith_relayAfter {past : List ClientAction} {action : ClientAction}
    {socket : Connection} {frame : Option CloseFrame} (rest : List ClientAction)
    (open_ : socket ∈ (relayAfter configuration policy past).1.sockets)
    (leaves : action.Leaves socket.id ∨
      ForsakenBy (relayAfter configuration policy past).1.sockets action socket)
    (last : LetGoWith configuration socket.id frame
      (relayAfter configuration policy (past ++ [action])).2) :
    LetGoWith configuration socket.id frame
      (relayAfter configuration policy (past ++ action :: rest)).2 := by
  have stepped := stepped_relayAfter configuration policy past action
  have gone := stepped.gone socket open_ ((stepped.not_mem_iff socket open_).mpr leaves)
  rw [List.append_cons]
  exact (advances_relayAfter configuration policy _ rest).letGoWith gone last

theorem breach_relayAfter {past : List ClientAction} {action : ClientAction} {socket : Connection}
    (open_ : socket ∈ (relayAfter configuration policy past).1.sockets)
    (breaks : action.Breaks socket.id) (rest : List ClientAction) :
    LetGoWith configuration socket.id (some .invalidMessage)
      (relayAfter configuration policy (past ++ action :: rest)).2 :=
  letGoWith_relayAfter configuration policy rest open_ (.inl (.inr breaks))
    ((stepped_relayAfter configuration policy past action).breach socket open_ breaks)

theorem forsaken_relayAfter {past : List ClientAction} {action : ClientAction}
    {socket : Connection} (open_ : socket ∈ (relayAfter configuration policy past).1.sockets)
    (forsaken : ForsakenBy (relayAfter configuration policy past).1.sockets action socket)
    (rest : List ClientAction) :
    LetGoWith configuration socket.id (some .peerLeft)
      (relayAfter configuration policy (past ++ action :: rest)).2 :=
  letGoWith_relayAfter configuration policy rest open_ (.inr forsaken)
    ((stepped_relayAfter configuration policy past action).forsaken socket open_ forsaken)

theorem lastWords : LastWords configuration policy where
  meanwhile actions socket open_ := by
    have account := (tracks_relayAfter configuration policy actions).account socket.id
      (Server.expects_of_mem open_)
    have delivered := (Service.atRest_run ⟨Relay.hooks, policy⟩ (Relay.initial configuration)
      actions).delivered socket open_
    rw [relayAfter] at account ⊢
    rwa [delivered, List.map_nil, List.append_nil] at account
  ended_iff past action := (stepped_relayAfter configuration policy past action).not_mem_iff
  breach _ _ rest _ open_ breaks := breach_relayAfter configuration policy open_ breaks rest
  forsaken _ _ rest _ open_ forsaken :=
    forsaken_relayAfter configuration policy open_ forsaken rest
  fates actions id session let_in := by
    obtain ⟨socket, rfl, address, still | ended⟩ :=
      exists_end_of_admitted configuration policy let_in
    · exact ⟨socket, rfl, address, .inl still⟩
    · obtain ⟨past, action, rest, rfl, open_, gone⟩ := ended
      refine ⟨socket, rfl, address, .inr ⟨past, action, rest, rfl, open_, ?_⟩⟩
      have stepped := stepped_relayAfter configuration policy past action
      obtain (ends | breaks) | forsaken := (stepped.not_mem_iff socket open_).mp gone
      · exact .inl ends
      · exact .inr (.inl ⟨breaks, breach_relayAfter configuration policy open_ breaks rest⟩)
      · exact .inr (.inr ⟨forsaken, forsaken_relayAfter configuration policy open_ forsaken rest⟩)

end

example :
    let asks : ClientAction := .connect "visitor" .loopback ⟨"GET", "/call/room",
      [("Connection", "Upgrade"), ("Upgrade", "websocket"), ("Sec-WebSocket-Version", "13"),
        ("Sec-WebSocket-Key", "x")]⟩
    let reports := (relayAfter default {} [asks, asks, .text ⟨0, "visitor"⟩ (notice "1"),
      .text ⟨0, "visitor"⟩ (.ofText "oops"), .text ⟨1, "visitor"⟩ (notice "2")]).2
    received ⟨0, "visitor"⟩ reports = [.farewell (some .invalidMessage)] ∧
      received ⟨1, "visitor"⟩ reports =
        [.message (.notify (.ofText "1")), .farewell (some .peerLeft)] := by
  decide

end Rendezvous
