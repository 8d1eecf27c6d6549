/-
# Lost receivers

The receiving end of a connection may be lost at any moment: between two calls, or while a
newcomer is handed, one by one, what waits for it. Nobody but the connection itself notices.
All that is stored, all results and all other wires are what they would be if no receiver
had been lost; only a request for the configuration fails if nobody is left to hear the
answer.

What a call does depends on a receiver in its result alone, so a run and the same run without
losses are twins for everybody who has lost nothing. The order of calls is free.
-/

import Rendezvous.Proofs.Interjections
import Rendezvous.Proofs.Refusals

namespace Rendezvous

open Function (update)

/-! ## Handing over one by one -/

/-- A receiver that is lost has received nothing that still counts. -/
theorem Wire.cut_offered (wire : Wire) (messages : List Outgoing) :
    (wire.offered messages).cut = wire.cut := by
  unfold Wire.offered
  split <;> rfl

theorem Wire.offered_cut (wire : Wire) (messages : List Outgoing) :
    wire.cut.offered messages = wire.cut :=
  rfl

theorem Wire.offered_append (wire : Wire) (first second : List Outgoing) :
    (wire.offered first).offered second = wire.offered (first ++ second) := by
  by_cases attended : wire.attended <;> simp [Wire.offered, Wire.carrying, attended]

/-- Put messages on a wire one by one, up to the first that nobody receives. -/
def Switchboard.handOver (id : ConnectionId) : List Outgoing → Switchboard → Switchboard
  | [], board => board
  | message :: rest, board =>
    match board.send? id [message] with
    | some sent => sent.handOver id rest
    | none => board

/-- Handing over one by one is offering everything at once. -/
theorem Switchboard.wire_handOver (id : ConnectionId) (messages : List Outgoing)
    (board : Switchboard) : (board.handOver id messages).wire =
      update board.wire id ((board.wire id).offered messages) := by
  induction messages generalizing board with
  | nil => rw [handOver, Wire.offered_nil, Function.update_eq_self]
  | cons message rest ih =>
      rw [handOver]
      cases sending : board.send? id [message] with
      | none =>
          have unattended : (board.wire id).attended = false := send?_eq_none_iff.mp sending
          rw [Wire.offered, unattended]
          exact (Function.update_eq_self id board.wire).symm
      | some sent =>
          have attended : (board.wire id).attended = true := by
            by_contra gone
            rw [send?_eq_none_iff.mpr (Bool.eq_false_iff.mpr gone)] at sending
            cases sending
          have first : sent.wire = update board.wire id ((board.wire id).offered [message]) := by
            funext other
            rw [wire_of_send? sending, Function.update_apply, Wire.offered_of_attended attended]
          rw [ih, first, Function.update_self, Function.update_idem, Wire.offered_append]
          rfl

/-- The wires after some receivers were lost. -/
def Wire.cutAt (lost : List ConnectionId) (wire : ConnectionId → Wire) (id : ConnectionId) :
    Wire :=
  if id ∈ lost then (wire id).cut else wire id

@[simp] theorem Wire.cutAt_nil (wire : ConnectionId → Wire) : cutAt [] wire = wire :=
  funext fun _ => if_neg List.not_mem_nil

/-- What is lost cannot be lost again. -/
theorem Wire.cutAt_cutAt (first second : List ConnectionId) (wire : ConnectionId → Wire) :
    cutAt second (cutAt first wire) = cutAt (first ++ second) wire := by
  funext id
  by_cases early : id ∈ first <;> by_cases late : id ∈ second <;>
    simp [cutAt, cut, early, late]

/-- Whether receivers are lost before something is offered or after it makes no difference. -/
theorem Wire.cutAt_offered (lost : List ConnectionId) (wire : ConnectionId → Wire)
    (id : ConnectionId) (messages : List Outgoing) :
    cutAt lost (update wire id ((wire id).offered messages)) =
      update (cutAt lost wire) id ((cutAt lost wire id).offered messages) := by
  funext other
  by_cases same : other = id
  · subst same
    by_cases gone : other ∈ lost <;> simp [cutAt, gone, cut_offered, offered_cut]
  · simp [cutAt, Function.update_of_ne same]

theorem Switchboard.wire_abandon_eq_cutAt (board : Switchboard) (id : ConnectionId) :
    (board.abandon id).wire = Wire.cutAt [id] board.wire := by
  funext other
  rw [wire_abandon, Wire.cutAt]
  by_cases same : other = id <;> simp [same]

/-- What waits is handed over one by one, and receivers are lost meanwhile, each after some
more messages. -/
def Switchboard.handOverLosing (id : ConnectionId) :
    List (Nat × ConnectionId) → List Outgoing → Switchboard → Switchboard
  | [], messages, board => board.handOver id messages
  | (handed, lost) :: later, messages, board =>
    ((board.handOver id (messages.take handed)).abandon lost).handOverLosing id later
      (messages.drop handed)

/-- It makes no difference after how many messages a receiver is lost. -/
theorem Switchboard.wire_handOverLosing (id : ConnectionId) (losses : List (Nat × ConnectionId))
    (messages : List Outgoing) (board : Switchboard) :
    (board.handOverLosing id losses messages).wire =
      Wire.cutAt (losses.map Prod.snd)
        (update board.wire id ((board.wire id).offered messages)) := by
  induction losses generalizing messages board with
  | nil => rw [handOverLosing, wire_handOver, List.map_nil, Wire.cutAt_nil]
  | cons loss later ih =>
      obtain ⟨handed, lost⟩ := loss
      rw [handOverLosing, ih, wire_abandon_eq_cutAt, wire_handOver, ← Wire.cutAt_offered,
        Function.update_self, Function.update_idem, Wire.offered_append, List.take_append_drop,
        Wire.cutAt_cutAt]
      rfl

/-! ## Openings in whose course receivers are lost -/

namespace Relay

/-- An opening in which what waits is handed over in a way of its own: its result and the
world after it. -/
def openedBy (handOver : List Outgoing → Switchboard → Switchboard) (connection : Connection)
    (world : World Relay) : Except SignalingError Unit × World Relay :=
  if world.core.poisoned then (.error .lockPoisoned, world)
  else
    match (world.core.registry.session connection.session).attach connection with
    | .error error => (.error error, world)
    | .ok joined =>
      let (waiting, drained) := joined.drainAll
      (.ok (), (world.withRegistry (world.core.registry.set connection.session drained)).withWires
        (handOver (waiting.map .notify) world.wires))

variable {world : World Relay} (handOver : List Outgoing → Switchboard → Switchboard)
  (connection : Connection)

theorem openedBy_of_isFull (sound : world.core.poisoned = false)
    (full : (world.session connection.session).isFull = true) :
    openedBy handOver connection world =
      (.error (.spaceFull (world.session connection.session).id), world) := by
  have refused : Session.attach (Registry.session world.core.registry connection.session)
      connection = .error (.spaceFull (world.session connection.session).id) :=
    Session.attach_of_isFull full connection
  simp only [openedBy, sound, Bool.false_eq_true, if_false, refused]

theorem openedBy_of_room (sound : world.core.poisoned = false)
    (room : (world.session connection.session).isFull = false) :
    openedBy handOver connection world =
      (.ok (), (world.withRegistry (world.core.registry.set connection.session
        ((world.session connection.session).welcoming connection))).withWires
          (handOver ((world.session connection.session).waiting.map .notify) world.wires)) := by
  have taken : Session.attach (Registry.session world.core.registry connection.session)
      connection = .ok _ := Session.attach_of_not_isFull room connection
  simp only [openedBy, sound, Bool.false_eq_true, if_false, taken]
  rfl

end Relay

/-- What may happen when receivers may be lost at any moment. -/
inductive Happening
  | incident (incident : Incident)
  /-- In the course of an opening receivers are lost: each after some more of the messages that
  wait for the newcomer were handed over, or at the latest when the call is over. -/
  | openedLosing (connection : Connection) (losses : List (Nat × ConnectionId))
  deriving DecidableEq, Repr

namespace Happening

/-- Whose receivers are lost. -/
def lost : Happening → List ConnectionId
  | .incident (.abandoned id) => [id]
  | .incident (.call _) | .incident (.collected _) => []
  | .openedLosing _ losses => losses.map Prod.snd

/-- What happens when nothing is lost. -/
def bare? : Happening → Option Incident
  | .incident (.abandoned _) => none
  | .incident (.call call) => some (.call call)
  | .incident (.collected id) => some (.collected id)
  | .openedLosing connection _ => some (.call (.opened connection))

end Happening

/-- The run without its losses. -/
def unharmed (run : List Happening) : List Incident := run.filterMap Happening.bare?

/-- A receiver is lost along a run. -/
def Loses (run : List Happening) (id : ConnectionId) : Prop :=
  ∃ happening ∈ run, id ∈ happening.lost

theorem unharmed_snoc (run : List Happening) (happening : Happening) :
    unharmed (run ++ [happening]) = unharmed run ++ happening.bare?.toList := by
  rw [unharmed, List.filterMap_append]
  cases bare : happening.bare? <;> simp [bare, unharmed]

theorem loses_snoc_iff {run : List Happening} {happening : Happening} {id : ConnectionId} :
    Loses (run ++ [happening]) id ↔ Loses run id ∨ id ∈ happening.lost := by
  simp [Loses, or_and_right, exists_or]

namespace World

/-- The world after receivers were lost. -/
def losing (world : World Relay) (lost : List ConnectionId) : World Relay :=
  world.incurAll (lost.map .abandoned)

/-- An opening in whose course receivers are lost. -/
def openedLosing (world : World Relay) (connection : Connection)
    (losses : List (Nat × ConnectionId)) : Except SignalingError Unit × World Relay :=
  let (result, after) :=
    Relay.openedBy (fun messages wires => wires.handOverLosing connection.id losses messages)
      connection world
  (result, after.losing (losses.map Prod.snd))

/-- The result of the call that is made, if any, -/
def answer? (world : World Relay) : Happening → Option (Except SignalingError Unit)
  | .incident (.call call) => some (world.result call)
  | .incident (.collected _) | .incident (.abandoned _) => none
  | .openedLosing connection losses => some (world.openedLosing connection losses).1

/-- and the world after what happens. -/
def undergo (world : World Relay) : Happening → World Relay
  | .incident incident => world.incur incident
  | .openedLosing connection losses => (world.openedLosing connection losses).2

/-- The world after all that happens in a run. -/
def undergoAll (world : World Relay) (run : List Happening) : World Relay :=
  run.foldl undergo world

theorem undergoAll_snoc (world : World Relay) (run : List Happening) (happening : Happening) :
    world.undergoAll (run ++ [happening]) = (world.undergoAll run).undergo happening :=
  List.foldl_append

/-- Two worlds in which everything looks the same. -/
structure SameView (one other : World Relay) : Prop where
  configuration : one.core.configuration = other.core.configuration
  poisoned : one.core.poisoned = other.core.poisoned
  sessions : one.sessions = other.sessions
  wire : one.wire = other.wire

/-! ### Losing receivers -/

@[simp] theorem core_losing (world : World Relay) (lost : List ConnectionId) :
    (world.losing lost).core = world.core := by
  induction lost generalizing world with
  | nil => rfl
  | cons id rest ih => exact ih (world.incur (.abandoned id))

@[simp] theorem wire_losing (world : World Relay) (lost : List ConnectionId) :
    (world.losing lost).wire = Wire.cutAt lost world.wire := by
  induction lost generalizing world with
  | nil => exact (Wire.cutAt_nil _).symm
  | cons id rest ih =>
      have first : (world.incur (.abandoned id)).wire = Wire.cutAt [id] world.wire :=
        Switchboard.wire_abandon_eq_cutAt world.wires id
      refine (ih (world.incur (.abandoned id))).trans ?_
      rw [first, Wire.cutAt_cutAt]
      rfl

@[simp] theorem sessions_losing (world : World Relay) (lost : List ConnectionId) :
    (world.losing lost).sessions = world.sessions :=
  congrArg (fun core : Relay => core.registry.get?) (world.core_losing lost)

/-- Losses in the course of an opening are losses after it. -/
theorem openedLosing_spec {world : World Relay} (sound : world.core.poisoned = false)
    (connection : Connection) (losses : List (Nat × ConnectionId)) :
    (world.openedLosing connection losses).1 = world.result (.opened connection) ∧
      SameView (world.openedLosing connection losses).2
        ((world.after (.opened connection)).losing (losses.map Prod.snd)) := by
  unfold openedLosing
  cases room : (world.session connection.session).isFull with
  | true =>
      have shown := Relay.opened_of_isFull connection sound room
      rw [Relay.openedBy_of_isFull _ connection sound room]
      refine ⟨shown.result.symm, ?_⟩
      rw [show world.after (.opened connection) = world from Relay.world_of_error shown.result]
      exact ⟨rfl, rfl, rfl, rfl⟩
  | false =>
      have shown := Relay.opened_of_room connection sound room
      rw [Relay.openedBy_of_room _ connection sound room]
      refine ⟨shown.result.symm, ?_⟩
      constructor
      case configuration =>
        rw [core_losing, core_losing, configuration_after]
        rfl
      case poisoned =>
        rw [core_losing, core_losing, poisoned_after]
        rfl
      case sessions =>
        rw [sessions_losing, sessions_losing]
        exact (get?_set_eq_update world connection.session _).trans shown.sessions.symm
      case wire =>
        have greeted : (world.after (.opened connection)).wire = _ := shown.wire
        have handedOver := Switchboard.wire_handOverLosing connection.id losses
          ((world.session connection.session).waiting.map .notify) world.wires
        rw [wire_losing, wire_losing, greeted]
        refine (congrArg (Wire.cutAt _) handedOver).trans ?_
        -- What was lost meanwhile is lost once more when the call is over.
        rw [Wire.cutAt_cutAt]
        funext id
        simp only [Wire.cutAt, List.mem_append, or_self]
        rfl

/-! ### Beside the run without losses -/

/-- A world in which receivers were lost and one in which they were not: nothing differs for
those who have lost nothing. -/
structure Unaffected (lost : ConnectionId → Prop) (harmed whole : World Relay) : Prop where
  twins : Twins (fun id => ¬ lost id) harmed whole
  wire : ∀ id, ¬ lost id → harmed.wire id = whole.wire id
  gone : ∀ id, (harmed.wire id).attended = false ↔ lost id

namespace Unaffected

variable {lost : ConnectionId → Prop} {harmed whole : World Relay}

/-- The same is done in both. -/
theorem incur (beside : Unaffected lost harmed whole) (incident : Incident)
    (noLoss : ∀ id, incident ≠ .abandoned id) :
    Unaffected lost (harmed.incur incident) (whole.incur incident) where
  twins := beside.twins.incur incident
  wire id here := beside.twins.wire_incur (beside.wire id here) incident
  gone id := by
    rw [attended_incur beside.twins.sound, beside.gone]
    exact or_iff_left (noLoss id)

/-- Receivers are lost in one of the two. -/
theorem lose (beside : Unaffected lost harmed whole) (ids : List ConnectionId) :
    Unaffected (fun id => lost id ∨ id ∈ ids) (harmed.losing ids) whole where
  twins := by
    refine (beside.twins.mono fun id here => (not_or.mp here).1).of_left ?_ ?_ ?_
    · exact core_losing harmed ids
    · intro id
      rw [wire_losing, Wire.cutAt]
      split <;> rfl
    · intro id here
      rw [wire_losing, Wire.cutAt, if_neg (not_or.mp here).2]
  wire id here := by
    rw [not_or] at here
    rw [wire_losing, Wire.cutAt, if_neg here.2]
    exact beside.wire id here.1
  gone id := by
    rw [wire_losing, Wire.cutAt]
    split
    · next among => exact iff_of_true rfl (.inr among)
    · next other => rw [beside.gone, or_iff_left other]

theorem congr {other : World Relay} (beside : Unaffected lost harmed whole)
    (view : SameView other harmed) : Unaffected lost other whole where
  twins :=
    { configuration := view.configuration.trans beside.twins.configuration
      sound := view.poisoned.trans beside.twins.sound
      sound' := beside.twins.sound'
      sessions := view.sessions.trans beside.twins.sessions
      closing := by rw [view.wire]; exact beside.twins.closing
      attended := by rw [view.wire]; exact beside.twins.attended }
  wire := by rw [view.wire]; exact beside.wire
  gone := by rw [view.wire]; exact beside.gone

/-- Whatever happens in one of the two happens in the other without its losses. -/
theorem undergo (beside : Unaffected lost harmed whole) (happening : Happening) :
    Unaffected (fun id => lost id ∨ id ∈ happening.lost) (harmed.undergo happening)
      (whole.incurAll happening.bare?.toList) := by
  have nothing {happening : Happening} (none : happening.lost = []) :
      (fun id => lost id ∨ id ∈ happening.lost) = lost := by
    simp [none]
  cases happening with
  | incident incident =>
      cases incident with
      | call call =>
          rw [nothing rfl]
          exact beside.incur (.call call) fun _ => nofun
      | collected id =>
          rw [nothing rfl]
          exact beside.incur (.collected id) fun _ => nofun
      | abandoned id => exact beside.lose [id]
  | openedLosing connection losses =>
      have opened := beside.incur (.call (.opened connection)) fun _ => nofun
      have view := (openedLosing_spec beside.twins.sound connection losses).2
      exact (opened.lose (losses.map Prod.snd)).congr view

end Unaffected

theorem unaffected_undergoAll (configuration : PeerConfiguration) (run : List Happening) :
    Unaffected (Loses run) ((Relay.initial configuration).undergoAll run)
      ((Relay.initial configuration).incurAll (unharmed run)) := by
  induction run using List.reverseRecOn with
  | nil =>
      have nobody (id : ConnectionId) : ¬ Loses [] id := by simp [Loses]
      exact ⟨⟨rfl, rfl, rfl, rfl, fun _ => rfl, fun _ _ => rfl⟩, fun _ _ => rfl,
        fun id => iff_of_false nofun (nobody id)⟩
  | append_singleton past happening ih =>
      have lost : Loses (past ++ [happening]) =
          fun id => Loses past id ∨ id ∈ happening.lost :=
        funext fun _ => propext loses_snoc_iff
      rw [undergoAll_snoc, unharmed_snoc, incurAll_append, lost]
      exact ih.undergo happening

end World

/-! ## Nobody else is harmed -/

/-- A request for the configuration after the receiver of the answer was lost. -/
def Unheard (run : List Happening) : HookCall → Prop
  | .message connection text => Loses run connection.id ∧
    ∃ members, text ∈ Json.objectTexts members ∧ Json.AskForConfiguration members
  | .handshake _ | .opened _ | .closed _ => False

namespace World

variable {run : List Happening} {harmed whole : World Relay}

/-- Calls come to the same result, unless nobody is left to hear the answer. -/
theorem Unaffected.result_eq (beside : Unaffected (Loses run) harmed whole) {call : HookCall}
    (heard : ¬ Unheard run call) : harmed.result call = whole.result call := by
  by_cases here : ∀ connection, call.connection? = some connection → ¬ Loses run connection.id
  · exact beside.twins.result_eq here
  simp only [not_forall, not_not] at here
  obtain ⟨connection, about, lost⟩ := here
  refine beside.twins.result_eq_of_asks_not ?_
  rintro caller text msgId rfl parsed
  obtain ⟨members, derived, asks, -⟩ := Json.parse_eq_getConfiguration_iff.mp parsed
  cases about
  exact heard ⟨lost, members, derived, asks⟩

/-- Losses in the course of a call do not change what comes of it. -/
theorem answer?_of_bare? {world : World Relay} (sound : world.core.poisoned = false)
    {happening : Happening} {call : HookCall} (bare : happening.bare? = some (.call call)) :
    world.answer? happening = some (world.result call) := by
  cases happening with
  | incident incident =>
      cases incident with
      | call made =>
          cases bare
          rfl
      | collected id | abandoned id => cases bare
  | openedLosing connection losses =>
      cases bare
      exact congrArg some (openedLosing_spec sound connection losses).1

end World

/-- A run in which receivers are lost, beside the run without the losses. -/
structure HarmsNobodyElse (run : List Happening) (harmed whole : World Relay) : Prop where
  sessions : harmed.sessions = whole.sessions
  closing : ∀ id, (harmed.wire id).closing = (whole.wire id).closing
  wire : ∀ id, ¬ Loses run id → harmed.wire id = whole.wire id
  answer : ∀ happening call, happening.bare? = some (.call call) → ¬ Unheard run call →
    harmed.answer? happening = some (whole.result call)
  unheard : ∀ connection text, Unheard run (.message connection text) →
    harmed.answer? (.incident (.call (.message connection text))) =
      some (.error (.peerGone connection.id))
  /-- Handing over may stop anywhere: the newcomer is a member, and nothing waits any more. -/
  flushed : ∀ happening connection, happening.bare? = some (.call (.opened connection)) →
    ¬ whole.HasTwo connection.session →
      harmed.answer? happening = some (.ok ()) ∧
      (harmed.undergo happening).sessions = update whole.sessions connection.session
        (some { whole.session connection.session with
          members := (whole.session connection.session).members ++ [connection]
          pending := [] })
  /-- A notice for a member that has lost its receiver is lost, and its sender is not told. -/
  relayed : ∀ connection text members data peer, text ∈ Json.objectTexts members →
    Json.Tell members data → (whole.wire connection.id).closing = false →
      (whole.session connection.session).otherMember connection.id = some peer →
        Loses run peer.id →
          harmed.answer? (.incident (.call (.message connection text))) = some (.ok ()) ∧
          (harmed.after (.message connection text)).sessions = whole.sessions ∧
          (harmed.after (.message connection text)).wire = harmed.wire

/-- Whatever is called and whoever loses a receiver meanwhile, nobody else is harmed. -/
theorem harmsNobodyElse_undergoAll (configuration : PeerConfiguration) (run : List Happening) :
    HarmsNobodyElse run ((Relay.initial configuration).undergoAll run)
      ((Relay.initial configuration).incurAll (unharmed run)) := by
  have beside := World.unaffected_undergoAll configuration run
  have order := World.inOrder_incurAll configuration (unharmed run)
  generalize (Relay.initial configuration).undergoAll run = harmed at beside
  generalize (Relay.initial configuration).incurAll (unharmed run) = whole at beside order
  have sound := beside.twins.sound
  have answer {happening : Happening} {call : HookCall}
      (bare : happening.bare? = some (.call call)) (heard : ¬ Unheard run call) :
      harmed.answer? happening = some (whole.result call) := by
    rw [World.answer?_of_bare? sound bare, beside.result_eq heard]
  constructor
  case sessions => exact beside.twins.sessions
  case closing => exact beside.twins.closing
  case wire => exact beside.wire
  case answer => exact fun happening call => answer
  case unheard =>
    rintro connection text ⟨lost, asks⟩
    rw [World.answer?_of_bare? sound rfl]
    exact congrArg some
      ((World.result_eq_peerGone_iff sound connection).mpr ⟨asks, (beside.gone _).mpr lost⟩)
  case flushed =>
    intro happening connection bare free
    have room : (whole.session connection.session).isFull = false := by
      rw [← order.isFull_iff] at free
      exact Bool.eq_false_iff.mpr free
    have shown := Relay.opened_of_room connection beside.twins.sound' room
    refine ⟨(answer bare id).trans (congrArg some shown.result), ?_⟩
    have after := (beside.undergo happening).twins.sessions
    rw [bare] at after
    exact after.trans shown.sessions
  case relayed =>
    intro connection text members data peer derived tells open_ found lost
    have parsed := Json.parse_eq_notify_iff.mpr ⟨members, derived, tells⟩
    have session : harmed.session = whole.session := by
      funext id
      rw [World.session, World.session, beside.twins.sessions]
    rw [← beside.twins.closing] at open_
    rw [← session] at found
    have shown := Relay.message_of_otherMember connection sound parsed open_ found
    have unattended := (beside.gone peer.id).mpr lost
    rw [Wire.offered, unattended, if_neg (by decide), Function.update_eq_self] at shown
    refine ⟨?_, shown.sessions.trans beside.twins.sessions, shown.wire⟩
    rw [World.answer?_of_bare? sound rfl]
    exact congrArg some shown.result

end Rendezvous
