/-
# What clients receive

From the reports of a server it can be told what each client has received: messages, and a
close frame. It can also be told what was put on its wire: the calls that were made, made
again on a relay from which nobody takes anything, leave all of it on the wire. Both are
followed here through a run. As long as a socket is open, what its client has received and
what is still on its wire are together all that was put there; once it has ended neither of
the two changes any more.
-/

import Rendezvous.Proofs.Footprint
import Rendezvous.Proofs.OpenSockets

namespace Rendezvous

/-! ## Reports -/

/-- What a client receives. -/
inductive Inbound
  | message (content : Outgoing)
  | farewell (frame : Option CloseFrame)
  deriving DecidableEq, Repr

/-- What a client receives, if a report tells of it. -/
def Report.inbound? (id : ConnectionId) : Report → Option Inbound
  | .delivered about content => if about = id then some (.message content) else none
  | .closedWith about frame => if about = id then some (.farewell frame) else none
  | .called _ _ _ | .answered _ _ => none

/-- The call that a report tells of. -/
def Report.call? : Report → Option HookCall
  | .called _ call _ => some call
  | .answered _ _ | .delivered _ _ | .closedWith _ _ => none

/-- The connection that is let in, with its session, if a report tells of it. -/
def Report.admitted? : Report → Option (ConnectionId × SessionId)
  | .answered id (.accepted session) => some (id, session)
  | .answered _ .unanswered | .answered _ (.refused _ _) => none
  | .called _ _ _ | .delivered _ _ | .closedWith _ _ => none

/-- What a client has received, in order. -/
def received (id : ConnectionId) (reports : List Report) : List Inbound :=
  reports.filterMap (Report.inbound? id)

/-- The calls that were made, in order. -/
def callsMade (reports : List Report) : History :=
  reports.filterMap Report.call?

/-- The connections that were let in, with their sessions, in order. -/
def admitted (reports : List Report) : List (ConnectionId × SessionId) :=
  reports.filterMap Report.admitted?

/-- All messages that were ever put on a wire: what the calls leave there if nothing is taken
off. -/
def queued (configuration : PeerConfiguration) (id : ConnectionId) (reports : List Report) :
    List Outgoing :=
  ((worldAfter configuration (callsMade reports)).wire id).outbox

theorem received_append (id : ConnectionId) (first second : List Report) :
    received id (first ++ second) = received id first ++ received id second :=
  List.filterMap_append

theorem callsMade_append (first second : List Report) :
    callsMade (first ++ second) = callsMade first ++ callsMade second :=
  List.filterMap_append

theorem admitted_append (first second : List Report) :
    admitted (first ++ second) = admitted first ++ admitted second :=
  List.filterMap_append

@[simp] theorem received_concat_called (id about : ConnectionId) (call : HookCall)
    (result : Except SignalingError Unit) (reports : List Report) :
    received id (reports ++ [.called about call result]) = received id reports :=
  (received_append id reports _).trans (List.append_nil _)

theorem callsMade_concat_called (about : ConnectionId) (call : HookCall)
    (result : Except SignalingError Unit) (reports : List Report) :
    callsMade (reports ++ [.called about call result]) = callsMade reports ++ [call] :=
  callsMade_append reports _

@[simp] theorem received_delivered_self (id : ConnectionId) (messages : List Outgoing) :
    received id (messages.map (.delivered id)) = messages.map .message := by
  simp [received, Report.inbound?, List.filterMap_map, Function.comp_def]

theorem received_delivered_of_ne {about id : ConnectionId} (other : about ≠ id)
    (messages : List Outgoing) : received id (messages.map (.delivered about)) = [] := by
  simp [received, Report.inbound?, other]

@[simp] theorem callsMade_delivered (about : ConnectionId) (messages : List Outgoing) :
    callsMade (messages.map (.delivered about)) = [] := by
  simp [callsMade, Report.call?]

@[simp] theorem callsMade_letGo {σ : Type} (about : ConnectionId) (farewell : Farewell)
    (world : World σ) : callsMade (Service.letGo about farewell world).2 = [] :=
  Service.filterMap_letGo farewell world (fun _ => rfl) fun _ => rfl

theorem queued_letGo {σ : Type} (configuration : PeerConfiguration) (id about : ConnectionId)
    (reports : List Report) (farewell : Farewell) (world : World σ) :
    queued configuration id (reports ++ (Service.letGo about farewell world).2) =
      queued configuration id reports := by
  rw [queued, callsMade_append, callsMade_letGo, List.append_nil, queued]

theorem received_letGo_of_ne {σ : Type} {about id : ConnectionId} (other : about ≠ id)
    (farewell : Farewell) (world : World σ) :
    received id (Service.letGo about farewell world).2 = [] :=
  Service.filterMap_letGo farewell world (fun _ => if_neg other) fun _ => if_neg other

/-- Who is let go with a close frame receives all that was on the wire before it. -/
theorem received_letGo_frame {σ : Type} (id : ConnectionId) (content : Option CloseFrame)
    (world : World σ) : received id (Service.letGo id (.frame content) world).2 =
      (world.wire id).outbox.map .message ++ [.farewell content] := by
  rw [Service.reports_letGo_frame, received_append, received_delivered_self]
  simp [received, Report.inbound?]

/-! Nobody is let in but on a request. -/

theorem admitted_called_cons (about : ConnectionId) (call : HookCall)
    (result : Except SignalingError Unit) (rest : List Report) :
    admitted (.called about call result :: rest) = admitted rest := rfl

section

variable {σ : Type} (service : Service σ)

theorem admitted_delivered (about : ConnectionId) (messages : List Outgoing) :
    admitted (messages.map (.delivered about)) = [] := by
  simp [admitted, Report.admitted?]

theorem admitted_finish (socket : Connection) (farewell : Farewell) (server : Server σ) :
    admitted (service.finish socket farewell server).2 = [] :=
  Service.filterMap_letGo farewell _ (fun _ => rfl) fun _ => rfl

theorem admitted_deliverAll (server : Server σ) (sockets : List Connection) :
    admitted (server.deliverAll sockets).2 = [] := by
  induction sockets generalizing server with
  | nil => rfl
  | cons first rest ih =>
      rw [Server.deliverAll_cons, admitted_append, ih, List.append_nil]
      exact admitted_delivered first.id _

theorem admitted_settle (server : Server σ) : admitted (service.settle server).2 = [] := by
  rw [Service.settle]
  generalize server.sockets.length = fuel
  induction fuel generalizing server with
  | zero => exact admitted_deliverAll server _
  | succ fuel ih =>
      unfold Service.settleWithin
      split
      · exact admitted_deliverAll server _
      · rw [admitted_append, admitted_finish, ih, List.append_nil]

theorem admitted_react (socket : Connection) (server : Server σ) (action : ClientAction) :
    admitted (service.react socket server action).2 = [] := by
  cases action with
  | text id content =>
      simp only [Service.react, Service.call]
      split
      · rfl
      · exact (admitted_called_cons _ _ _ _).trans (admitted_finish service socket _ _)
  | close id frame | vanish id | garbage id => exact admitted_finish service _ _ _
  | aside id | connect label address request => rfl

end

/-- First the hooks hear of an end, then the socket is let go. -/
theorem append_snd_finish (policy : AccessPolicy) (socket : Connection) (farewell : Farewell)
    (server : Server Relay) (reports : List Report) :
    reports ++ (Service.finish ⟨Relay.hooks, policy⟩ socket farewell server).2 =
      (reports ++ [.called socket.id (.closed socket) (server.world.result (.closed socket))]) ++
        (Service.letGo socket.id farewell (server.world.after (.closed socket))).2 := by
  rw [List.append_assoc]
  rfl

/-- Everything that was ever put on a wire has reached its client, then the last word, and
nothing after it. -/
def LetGoWith (configuration : PeerConfiguration) (id : ConnectionId) (frame : Option CloseFrame)
    (reports : List Report) : Prop :=
  received id reports = (queued configuration id reports).map .message ++ [.farewell frame]

/-! ## Following a server -/

/-- Whoever has an open socket or may still come. -/
def Server.Expects {σ : Type} (server : Server σ) (id : ConnectionId) : Prop :=
  id ∈ server.sockets.map Connection.id ∨ server.requests ≤ id.serial

/-- The reports of a server tell where it is. -/
structure Tracks (configuration : PeerConfiguration) (server : Server Relay)
    (reports : List Report) : Prop where
  inStep : InStep server
  /-- Calls come to the same on a relay from which nobody takes anything. -/
  twins : World.Twins server.Expects server.world (worldAfter configuration (callsMade reports))
  /-- Nobody leaves that relay. -/
  stay : ∀ id, ((worldAfter configuration (callsMade reports)).wire id).attended = true
  /-- What was received and what is still on the wire is all that was put there. -/
  account : ∀ id, server.Expects id →
    received id reports ++ (server.world.wire id).outbox.map .message =
      (queued configuration id reports).map .message

/-- One state of affairs comes from another. -/
structure Advances (configuration : PeerConfiguration) (server : Server Relay)
    (reports : List Report) (server' : Server Relay) (reports' : List Report) : Prop where
  tracks : Tracks configuration server' reports'
  expects : ∀ id, server'.Expects id → server.Expects id
  /-- Nothing comes to those who are gone. -/
  still : ∀ id, ¬ server.Expects id → received id reports' = received id reports ∧
    queued configuration id reports' = queued configuration id reports

variable {configuration : PeerConfiguration} {server server' server'' : Server Relay}
  {reports reports' reports'' : List Report}

theorem Tracks.refl (tracks : Tracks configuration server reports) :
    Advances configuration server reports server reports :=
  ⟨tracks, fun _ here => here, fun _ _ => ⟨rfl, rfl⟩⟩

theorem Advances.trans (first : Advances configuration server reports server' reports')
    (later : Advances configuration server' reports' server'' reports'') :
    Advances configuration server reports server'' reports'' where
  tracks := later.tracks
  expects id here := first.expects id (later.expects id here)
  still id gone := by
    obtain ⟨received, queued⟩ := first.still id gone
    obtain ⟨received', queued'⟩ := later.still id fun here => gone (first.expects id here)
    exact ⟨received'.trans received, queued'.trans queued⟩

/-- The last word stays the last. -/
theorem Advances.letGoWith (advances : Advances configuration server reports server' reports')
    {id : ConnectionId} {frame : Option CloseFrame} (gone : ¬ server.Expects id)
    (last : LetGoWith configuration id frame reports) :
    LetGoWith configuration id frame reports' := by
  obtain ⟨received, queued⟩ := advances.still id gone
  rw [LetGoWith, received, queued]
  exact last

theorem Server.expects_of_mem {socket : Connection} (open_ : socket ∈ server.sockets) :
    server.Expects socket.id :=
  .inl (List.mem_map_of_mem open_)

/-- Nothing is expected any more of a socket that has ended. -/
theorem InStep.not_expects_finish (inStep : InStep server) (policy : AccessPolicy)
    {socket : Connection} (open_ : socket ∈ server.sockets) (farewell : Farewell) :
    ¬ (Service.finish ⟨Relay.hooks, policy⟩ socket farewell server).1.Expects socket.id := by
  rintro (listed | new)
  · obtain ⟨other, kept, same⟩ := List.mem_map.mp listed
    exact of_decide_eq_true (List.mem_filter.mp kept).2 same
  · exact Nat.not_le_of_lt (inStep.numbered.below socket open_) new

/-! ## Calls -/

theorem InStep.mem_sockets_of_session (inStep : InStep server) {id : SessionId}
    {member : Connection} (inside : member ∈ (server.world.session id).members) :
    member ∈ server.sockets := by
  cases present : server.world.sessions id with
  | none =>
      rw [World.session, present] at inside
      cases inside
  | some session =>
      rw [World.session_of_sessions present] at inside
      exact (inStep.arrived id session present).subset inside

/-- Nothing is put on a wire that is not expected to be read. -/
theorem InStep.mail_eq_nil (inStep : InStep server) {call : HookCall}
    (here : ∀ connection, call.connection? = some connection → server.Expects connection.id)
    {id : ConnectionId} (gone : ¬ server.Expects id) : (server.world.effect call).mail id = [] := by
  have other {about : ConnectionId} (expected : server.Expects about) : about ≠ id := by
    rintro rfl
    exact gone expected
  have offered (result : Except SignalingError Unit) (stored : Option Session)
      {target : ConnectionId} (expected : server.Expects target) (messages : List Outgoing) :
      (Effect.mk result stored (some (target, messages)) none).mail id = [] :=
    if_neg (other expected)
  have comes := server.world.comes_effect call
  generalize server.world.effect call = effect at comes ⊢
  cases comes with
  | idle | kept parsed | closed => rfl
  | @welcomed connection room => exact offered _ _ (here connection rfl) _
  | @answered connection text msgId result parsed => exact offered _ _ (here connection rfl) _
  | passed parsed found =>
      have inside := inStep.mem_sockets_of_session (Session.mem_of_otherMember found)
      exact offered _ _ (Server.expects_of_mem inside) _

namespace Tracks

variable (tracks : Tracks configuration server reports)

include tracks

theorem queued_call (call : HookCall) (about : ConnectionId)
    (result : Except SignalingError Unit) (id : ConnectionId) :
    queued configuration id (reports ++ [.called about call result]) =
      queued configuration id reports ++ (server.world.effect call).mail id := by
  rw [queued, callsMade_concat_called, worldAfter_snoc, World.outbox_after tracks.twins.sound',
    tracks.stay, if_pos rfl, ← tracks.twins.mail_eq]
  rfl

/-- A call is made for somebody who is expected. -/
theorem call {call : HookCall} {about : ConnectionId} {result : Except SignalingError Unit}
    {sockets : List Connection} {requests : Nat}
    (here : ∀ connection, call.connection? = some connection → server.Expects connection.id)
    (inStep : InStep ⟨server.world.after call, sockets, requests⟩)
    (expects : ∀ id, Server.Expects (σ := Relay) ⟨server.world.after call, sockets, requests⟩ id →
      server.Expects id) :
    Advances configuration server reports ⟨server.world.after call, sockets, requests⟩
      (reports ++ [.called about call result]) := by
  have history := callsMade_concat_called about call result reports
  have grown (id : ConnectionId) := tracks.queued_call call about result id
  constructor
  case tracks =>
    constructor
    case inStep => exact inStep
    case twins =>
      rw [history, worldAfter_snoc]
      exact (tracks.twins.after _).mono expects
    case stay =>
      intro id
      rw [history, worldAfter_snoc, World.attended_after tracks.twins.sound', tracks.stay]
    case account =>
      intro id expected
      have attended := tracks.inStep.attended id (expects id expected)
      rw [received_concat_called, grown, World.outbox_after tracks.twins.sound, attended,
        if_pos rfl, List.map_append, List.map_append, ← List.append_assoc,
        tracks.account id (expects id expected)]
  case expects => exact expects
  case still =>
    intro id gone
    rw [received_concat_called, grown, tracks.inStep.mail_eq_nil here gone, List.append_nil]
    exact ⟨rfl, rfl⟩

/-- Reports that tell of nothing that anybody receives or that changes the relay. -/
theorem quiet {more : List Report} (nothing : ∀ id, received id more = [])
    (still : ∀ world : World Relay, world.afterAll (callsMade more) = world) :
    Advances configuration server reports server (reports ++ more) := by
  have same : worldAfter configuration (callsMade (reports ++ more)) =
      worldAfter configuration (callsMade reports) := by
    rw [callsMade_append, worldAfter, World.afterAll_append, still]
  have heard (id : ConnectionId) : received id (reports ++ more) = received id reports := by
    rw [received_append, nothing, List.append_nil]
  have put (id : ConnectionId) : queued configuration id (reports ++ more) =
      queued configuration id reports := by rw [queued, same, queued]
  refine ⟨⟨tracks.inStep, ?_, ?_, ?_⟩, fun _ here => here, fun id _ => ⟨heard id, put id⟩⟩
  · rw [same]
    exact tracks.twins
  · rw [same]
    exact tracks.stay
  · intro id expected
    rw [heard, put]
    exact tracks.account id expected

theorem counted : Advances configuration server reports
    { server with requests := server.requests + 1 } reports := by
  have fewer (id : ConnectionId)
      (here : Server.Expects { server with requests := server.requests + 1 } id) :
      server.Expects id := here.imp_right Nat.le_of_succ_le
  exact ⟨⟨tracks.inStep.counted, tracks.twins.mono fewer, tracks.stay,
    fun id here => tracks.account id (fewer id here)⟩, fewer, fun _ _ => ⟨rfl, rfl⟩⟩

/-- What is on a wire reaches its client. -/
theorem deliverTo {socket : Connection} (open_ : socket ∈ server.sockets) :
    Advances configuration server reports (server.deliverTo socket.id).1
      (reports ++ (server.deliverTo socket.id).2) := by
  have delivered : (server.deliverTo socket.id).2 =
      (server.world.wire socket.id).outbox.map (.delivered socket.id) := rfl
  have history : callsMade (reports ++ (server.deliverTo socket.id).2) = callsMade reports := by
    rw [delivered, callsMade_append, callsMade_delivered, List.append_nil]
  have same (id : ConnectionId) :
      queued configuration id (reports ++ (server.deliverTo socket.id).2) =
        queued configuration id reports := by rw [queued, history, queued]
  have wire := server.wire_deliverTo socket.id
  constructor
  case tracks =>
    constructor
    case inStep => exact tracks.inStep.deliver socket.id
    case twins =>
      rw [history]
      refine tracks.twins.of_left rfl (server.isClosing_deliverTo socket.id) fun id _ => ?_
      rw [wire]
      split
      · next here =>
        rw [here]
        rfl
      · rfl
    case stay =>
      rw [history]
      exact tracks.stay
    case account =>
      intro id expected
      rw [same, ← tracks.account id expected, received_append, delivered, wire]
      by_cases here : id = socket.id
      · rw [here, if_pos rfl, received_delivered_self]
        exact List.append_nil _
      · rw [if_neg here, received_delivered_of_ne (Ne.symm here), List.append_nil]
  case expects => exact fun id here => here
  case still =>
    intro id gone
    have other : socket.id ≠ id := by
      rintro rfl
      exact gone (Server.expects_of_mem open_)
    rw [same, received_append, delivered, received_delivered_of_ne other, List.append_nil]
    exact ⟨rfl, rfl⟩

/-- The wire of somebody who is not expected any more is cut. -/
theorem letGo {id : ConnectionId} (gone : ¬ server.Expects id) (farewell : Farewell) :
    Tracks configuration { server with world := (Service.letGo id farewell server.world).1 }
      (reports ++ (Service.letGo id farewell server.world).2) := by
  have history : callsMade (reports ++ (Service.letGo id farewell server.world).2) =
      callsMade reports := by
    rw [callsMade_append, callsMade_letGo, List.append_nil]
  have other {expected : ConnectionId} (here : server.Expects expected) : expected ≠ id := by
    rintro rfl
    exact gone here
  constructor
  case inStep =>
    refine tracks.inStep.letGo (fun open_ => gone (.inl open_)) ?_ farewell
    exact Nat.lt_of_not_le fun new => gone (.inr new)
  case twins =>
    rw [history]
    refine tracks.twins.of_left rfl (Service.closing_letGo id farewell _) fun expected here => ?_
    rw [Service.wire_letGo, if_neg (other here)]
  case stay =>
    rw [history]
    exact tracks.stay
  case account =>
    intro expected here
    rw [queued_letGo, received_append, received_letGo_of_ne (Ne.symm (other here)),
      List.append_nil, Service.wire_letGo, if_neg (other here)]
    exact tracks.account expected here

/-- The hooks hear of an end, and nothing is expected of the socket from then on. -/
theorem closed {socket : Connection} (open_ : socket ∈ server.sockets)
    (result : Except SignalingError Unit) :
    Advances configuration server reports
      ⟨server.world.after (.closed socket),
        server.sockets.filter fun other => other.id ≠ socket.id, server.requests⟩
      (reports ++ [.called socket.id (.closed socket) result]) := by
  refine tracks.call ?_ (tracks.inStep.ended open_) fun id expected => ?_
  · rintro connection ⟨⟩
    exact Server.expects_of_mem open_
  · exact expected.imp_left fun listed => (List.filter_sublist.map Connection.id).subset listed

variable (policy : AccessPolicy)

/-- The end of a socket, -/
theorem finish {socket : Connection} (open_ : socket ∈ server.sockets) (farewell : Farewell) :
    Advances configuration server reports
      (Service.finish ⟨Relay.hooks, policy⟩ socket farewell server).1
      (reports ++ (Service.finish ⟨Relay.hooks, policy⟩ socket farewell server).2) := by
  have told := tracks.closed open_ (server.world.result (.closed socket))
  have cut := told.tracks.letGo (tracks.inStep.not_expects_finish policy open_ farewell) farewell
  rw [List.append_assoc] at cut
  refine ⟨cut, told.expects, fun id unexpected => ?_⟩
  obtain ⟨heard, put⟩ := told.still id unexpected
  have other : socket.id ≠ id := by
    rintro rfl
    exact unexpected (Server.expects_of_mem open_)
  rw [append_snd_finish, received_append, received_letGo_of_ne other, List.append_nil, queued_letGo]
  exact ⟨heard, put⟩

/-- with which everything that was put on its wire reaches its client, and then the last word. -/
theorem letGoWith {socket : Connection} (open_ : socket ∈ server.sockets)
    (frame : Option CloseFrame) : LetGoWith configuration socket.id frame
      (reports ++ (Service.finish ⟨Relay.hooks, policy⟩ socket (.frame frame) server).2) := by
  -- Nothing is put on a wire by a call that tells of an end.
  have silent : (server.world.effect (.closed socket)).mail socket.id = [] := rfl
  have put := tracks.queued_call (.closed socket) socket.id
    (server.world.result (.closed socket)) socket.id
  have outbox : ((server.world.after (.closed socket)).wire socket.id).outbox =
      (server.world.wire socket.id).outbox := by
    rw [World.outbox_after tracks.twins.sound, silent, ite_self, List.append_nil]
  rw [silent, List.append_nil] at put
  rw [LetGoWith, append_snd_finish, received_append, received_letGo_frame, received_concat_called,
    outbox, ← List.append_assoc, tracks.account socket.id (Server.expects_of_mem open_),
    queued_letGo, put]

end Tracks

end Rendezvous
