/-
# The contract with the hooks

Hooks rely on the order in which they are called. For every socket they hear of a client
that the policy lets in, then of an open connection, then of its texts and at last of its
end; whatever a hook refuses is the last that it hears of its kind, and the end of a
connection that was taken in is told exactly once. A server keeps this whatever the hooks
answer, whatever the clients do and in whatever order connections take turns.
-/

import Rendezvous.Proofs.Reports

namespace Rendezvous

/-- Whether a policy lets a request into a session, by the number of the request. -/
def LetIn (policy : AccessPolicy) (knocks : List Knock) (id : ConnectionId)
    (session : SessionId) : Prop :=
  ∃ knock, knocks[id.serial]? = some knock ∧ knock.label = id.label ∧
    knock.request.admission policy = .ok session

/-- What hooks may rely on about the calls for one socket. `served` says whether the socket
is still in the hands of the server. -/
structure HookContract (letIn : SessionId → Prop) (id : ConnectionId) (log : List Told)
    (served : Bool) : Prop where
  /-- The calls are as many as there are so far of a handshake, an opening, some texts and
  an end, all of one connection. -/
  in_order : ∃ connection : Connection, connection.id = id ∧ ∃ texts : List Octets,
    log.map Told.call <+: [.handshake connection.session, .opened connection] ++
      texts.map (.message connection) ++ [.closed connection]
  /-- Only the session that the policy lets the client into is asked for. -/
  let_in : ∀ session result, ⟨.handshake session, result⟩ ∈ log → letIn session
  /-- A connection is opened only to the session that its client was let into. -/
  let_in_before : ∀ connection result, ⟨.opened connection, result⟩ ∈ log →
    log.head? = some ⟨.handshake connection.session, .ok ()⟩
  /-- Nothing follows an opening that failed. -/
  opening_failed : log.Pairwise fun earlier _ =>
    ∀ connection error, earlier ≠ ⟨.opened connection, .error error⟩
  /-- No text follows one on which the hook failed. -/
  text_failed : log.Pairwise fun earlier later => ∀ connection text error,
    earlier = ⟨.message connection text, .error error⟩ →
      ∀ other content, later.call ≠ .message other content
  /-- The end of a connection that was taken in is told once, -/
  closed_once : ∀ connection, ⟨.opened connection, .ok ()⟩ ∈ log → served = false →
    (log.map Told.call).count (.closed connection) = 1
  /-- and of no other, nor before the end. -/
  closed_only : ∀ connection, .closed connection ∈ log.map Told.call →
    ⟨.opened connection, .ok ()⟩ ∈ log ∧ served = false

/-! ## The course of a connection -/

/-- What the hooks were told of a connection that was taken in and all of whose texts they
accepted. -/
def talk (connection : Connection) (texts : List Octets) : List Told :=
  [⟨.handshake connection.session, .ok ()⟩, ⟨.opened connection, .ok ()⟩] ++
    texts.map fun text => ⟨.message connection text, .ok ()⟩

/-- A talk, at the end of which the hook may have failed on a text. -/
inductive Talked (connection : Connection) : List Told → Prop
  | well (texts : List Octets) : Talked connection (talk connection texts)
  | badly (texts : List Octets) (last : Octets) (error : SignalingError) :
    Talked connection (talk connection texts ++ [⟨.message connection last, .error error⟩])

/-- All that the hooks can have been told of a connection, by the stage it is at. -/
inductive Course (letIn : SessionId → Prop) (id : ConnectionId) :
    List Told → Option Task → Prop
  | unheard : Course letIn id [] none
  | refused {session : SessionId} {error : SignalingError} (let_in : letIn session) :
    Course letIn id [⟨.handshake session, .error error⟩] none
  | accepted {connection : Connection} (let_in : letIn connection.session)
    (same : connection.id = id) :
    Course letIn id [⟨.handshake connection.session, .ok ()⟩] (some ⟨connection, .accepted⟩)
  | withdrawn {connection : Connection} (let_in : letIn connection.session)
    (same : connection.id = id) :
    Course letIn id [⟨.handshake connection.session, .ok ()⟩] none
  | turnedAway {connection : Connection} {error : SignalingError}
    (let_in : letIn connection.session) (same : connection.id = id) :
    Course letIn id
      [⟨.handshake connection.session, .ok ()⟩, ⟨.opened connection, .error error⟩] none
  | reading {connection : Connection} (let_in : letIn connection.session)
    (same : connection.id = id) (texts : List Octets) :
    Course letIn id (talk connection texts) (some ⟨connection, .reading⟩)
  | ending {connection : Connection} {farewell : Farewell} {log : List Told}
    (let_in : letIn connection.session) (same : connection.id = id)
    (talked : Talked connection log) :
    Course letIn id log (some ⟨connection, .ending farewell⟩)
  | concluded {connection : Connection} {result : Except SignalingError Unit} {log : List Told}
    (let_in : letIn connection.session) (same : connection.id = id)
    (talked : Talked connection log) :
    Course letIn id (log ++ [⟨.closed connection, result⟩]) none

variable {letIn : SessionId → Prop} {id : ConnectionId} {log more : List Told}
  {task later : Option Task} {connection : Connection}

theorem talk_snoc (connection : Connection) (texts : List Octets) (text : Octets) :
    talk connection texts ++ [⟨.message connection text, .ok ()⟩] =
      talk connection (texts ++ [text]) := by
  simp [talk]

theorem opened_mem_talk (connection : Connection) (texts : List Octets) :
    ⟨.opened connection, .ok ()⟩ ∈ talk connection texts := by
  simp [talk]

namespace Course

theorem mono {still : SessionId → Prop} (course : Course letIn id log task)
    (weaker : ∀ session, letIn session → still session) : Course still id log task := by
  cases course with
  | unheard => exact .unheard
  | refused let_in => exact .refused (weaker _ let_in)
  | accepted let_in same => exact .accepted (weaker _ let_in) same
  | withdrawn let_in same => exact .withdrawn (weaker _ let_in) same
  | turnedAway let_in same => exact .turnedAway (weaker _ let_in) same
  | reading let_in same texts => exact .reading (weaker _ let_in) same texts
  | ending let_in same talked => exact .ending (weaker _ let_in) same talked
  | concluded let_in same talked => exact .concluded (weaker _ let_in) same talked

/-- A turn continues the course. A request is let in only under a number of which nothing
was heard before. -/
theorem next {admits : ConnectionId → SessionId → Prop} (course : Course letIn id log task)
    (passage : Passage admits id task more later)
    (fresh : ∀ session, admits id session → letIn session ∧ log = []) :
    Course letIn id (log ++ more) later := by
  cases passage with
  | rest =>
      rw [List.append_nil]
      exact course
  | refused admitted =>
      obtain ⟨let_in, rfl⟩ := fresh _ admitted
      exact .refused let_in
  | accepted connection admitted same =>
      obtain ⟨let_in, rfl⟩ := fresh _ admitted
      exact .accepted let_in same
  | withdrawn =>
      cases course with
      | accepted let_in same => exact .withdrawn let_in same
  | opened =>
      cases course with
      | accepted let_in same => exact .reading let_in same []
  | turnedAway =>
      cases course with
      | accepted let_in same => exact .turnedAway let_in same
  | heard =>
      cases course with
      | reading let_in same texts =>
          rw [talk_snoc]
          exact .reading let_in same _
  | failed =>
      cases course with
      | reading let_in same texts => exact .ending let_in same (.badly texts _ _)
  | stopped =>
      cases course with
      | reading let_in same texts =>
          rw [List.append_nil]
          exact .ending let_in same (.well texts)
  | concluded =>
      cases course with
      | ending let_in same talked => exact .concluded let_in same talked

end Course

/-- Whether nothing more is read from a connection. -/
def isOver : Option Task → Bool
  | none | some ⟨_, .ending _⟩ => true
  | some ⟨_, .accepted⟩ | some ⟨_, .reading⟩ => false

/-- Where nothing more is read, nothing comes but the end. -/
theorem Passage.of_isOver {admits : ConnectionId → SessionId → Prop}
    (passage : Passage admits id task more later) (finished : isOver task = true)
    (never : ∀ session, ¬ admits id session) :
    isOver later = true ∧ ∀ last ∈ more, ∃ connection, last.call = HookCall.closed connection := by
  cases passage with
  | rest => exact ⟨finished, fun _ nothing => absurd nothing List.not_mem_nil⟩
  | refused admitted => exact absurd admitted (never _)
  | accepted connection admitted same => exact absurd admitted (never _)
  | withdrawn | opened | turnedAway | heard | failed | stopped => cases finished
  | @concluded connection farewell result =>
      refine ⟨rfl, fun last listed => ⟨connection, ?_⟩⟩
      rw [List.mem_singleton.mp listed]

/-- Where nothing is under way, nothing comes but a request. -/
theorem Passage.of_none {admits : ConnectionId → SessionId → Prop}
    (passage : Passage admits id none more later) (never : ∀ session, ¬ admits id session) :
    more = [] ∧ later = none := by
  cases passage with
  | rest => exact ⟨rfl, rfl⟩
  | refused admitted => exact absurd admitted (never _)
  | accepted connection admitted same => exact absurd admitted (never _)

/-! ## From the course to the contract -/

namespace Talked

theorem opened_mem (talked : Talked connection log) : ⟨.opened connection, .ok ()⟩ ∈ log := by
  cases talked with
  | well texts => exact opened_mem_talk connection texts
  | badly texts last error => exact List.mem_append_left _ (opened_mem_talk connection texts)

theorem exists_calls (talked : Talked connection log) : ∃ texts : List Octets,
    log.map Told.call = [HookCall.handshake connection.session, HookCall.opened connection] ++
      texts.map (HookCall.message connection) := by
  cases talked with
  | well texts => exact ⟨texts, by simp [talk]⟩
  | badly texts last error => exact ⟨texts ++ [last], by simp [talk]⟩

theorem head?_eq (talked : Talked connection log) :
    log.head? = some ⟨.handshake connection.session, .ok ()⟩ := by
  cases talked with
  | well texts | badly texts last error => rfl

/-- A talk begins with success, and all that follows are texts. -/
theorem mem_cases (talked : Talked connection log) {told : Told} (listed : told ∈ log) :
    told = ⟨.handshake connection.session, .ok ()⟩ ∨ told = ⟨.opened connection, .ok ()⟩ ∨
      ∃ text, told.call = .message connection text := by
  cases talked with
  | well texts =>
      simp only [talk, List.cons_append, List.nil_append, List.mem_cons, List.mem_map] at listed
      rcases listed with rfl | rfl | ⟨text, -, rfl⟩
      · exact .inl rfl
      · exact .inr (.inl rfl)
      · exact .inr (.inr ⟨text, rfl⟩)
  | badly texts last error =>
      simp only [talk, List.cons_append, List.nil_append, List.mem_cons, List.mem_append,
        List.mem_map, List.not_mem_nil, or_false] at listed
      rcases listed with rfl | rfl | ⟨text, -, rfl⟩ | rfl
      · exact .inl rfl
      · exact .inr (.inl rfl)
      · exact .inr (.inr ⟨text, rfl⟩)
      · exact .inr (.inr ⟨last, rfl⟩)

theorem eq_of_opened (talked : Talked connection log) {other : Connection}
    {result : Except SignalingError Unit} (listed : ⟨.opened other, result⟩ ∈ log) :
    other = connection ∧ result = .ok () := by
  rcases talked.mem_cases listed with same | same | ⟨text, same⟩
  · cases same
  · cases same
    exact ⟨rfl, rfl⟩
  · cases same

theorem eq_of_handshake (talked : Talked connection log) {session : SessionId}
    {result : Except SignalingError Unit} (listed : ⟨.handshake session, result⟩ ∈ log) :
    session = connection.session := by
  rcases talked.mem_cases listed with same | same | ⟨text, same⟩
  · cases same
    rfl
  · cases same
  · cases same

theorem closed_not_mem (talked : Talked connection log) (other : Connection) :
    .closed other ∉ log.map Told.call := by
  obtain ⟨texts, calls⟩ := talked.exists_calls
  simp [calls]

theorem not_opening_failed (talked : Talked connection log) :
    ∀ told ∈ log, ∀ other error, told ≠ ⟨.opened other, .error error⟩ := by
  rintro told listed other error rfl
  cases (talked.eq_of_opened listed).2

/-- A text on which the hook failed was the last. -/
theorem text_failed (talked : Talked connection log) :
    log.Pairwise fun earlier later => ∀ speaker text error,
      earlier = ⟨.message speaker text, .error error⟩ →
        ∀ other content, later.call ≠ .message other content := by
  have well (texts : List Octets) : ∀ earlier ∈ talk connection texts, ∀ later : Told,
      ∀ speaker text error, earlier = ⟨.message speaker text, .error error⟩ →
        ∀ other content, later.call ≠ .message other content := by
    simp [talk]
  cases talked with
  | well texts =>
      exact List.pairwise_of_forall_mem_list fun earlier listed later _ =>
        well texts earlier listed later
  | badly texts last error =>
      exact List.pairwise_append.mpr
        ⟨List.pairwise_of_forall_mem_list fun earlier listed later _ =>
            well texts earlier listed later,
          List.pairwise_singleton _ _,
          fun earlier listed later _ => well texts earlier listed later⟩

/-- As long as it is served, all is well with a connection that was taken in, -/
theorem contract (talked : Talked connection log) (let_in : letIn connection.session)
    (same : connection.id = id) : HookContract letIn id log true where
  in_order := by
    obtain ⟨texts, calls⟩ := talked.exists_calls
    refine ⟨connection, same, texts, ?_⟩
    rw [calls]
    exact List.prefix_append _ _
  let_in session result listed := by
    rw [talked.eq_of_handshake listed]
    exact let_in
  let_in_before other result listed := by
    rw [(talked.eq_of_opened listed).1]
    exact talked.head?_eq
  opening_failed := List.pairwise_of_forall_mem_list fun earlier listed _ _ =>
    talked.not_opening_failed earlier listed
  text_failed := talked.text_failed
  closed_once := nofun
  closed_only other listed := absurd listed (talked.closed_not_mem other)

/-- and also when the hooks have heard of its end. -/
theorem contract_of_closed (talked : Talked connection log)
    (let_in : letIn connection.session) (same : connection.id = id)
    (result : Except SignalingError Unit) :
    HookContract letIn id (log ++ [⟨.closed connection, result⟩]) false where
  in_order := by
    obtain ⟨texts, calls⟩ := talked.exists_calls
    refine ⟨connection, same, texts, ?_⟩
    rw [List.map_append, calls]
    exact List.prefix_rfl
  let_in session result listed := by
    have earlier : ⟨.handshake session, result⟩ ∈ log := by simpa using listed
    rw [talked.eq_of_handshake earlier]
    exact let_in
  let_in_before other result listed := by
    have earlier : ⟨.opened other, result⟩ ∈ log := by simpa using listed
    rw [(talked.eq_of_opened earlier).1, List.head?_append, talked.head?_eq]
    rfl
  opening_failed := by
    apply List.pairwise_of_forall_mem_list
    intro earlier listed _ _
    rcases List.mem_append.mp listed with earlier_listed | last
    · exact talked.not_opening_failed earlier earlier_listed
    · rw [List.mem_singleton.mp last]
      simp
  text_failed := by
    refine List.pairwise_append.mpr ⟨talked.text_failed, List.pairwise_singleton _ _, ?_⟩
    intro earlier _ later last
    rw [List.mem_singleton.mp last]
    simp
  closed_once other listed _ := by
    have earlier : ⟨.opened other, .ok ()⟩ ∈ log := by simpa using listed
    rw [(talked.eq_of_opened earlier).1, List.map_append, List.count_append,
      List.count_eq_zero.mpr (talked.closed_not_mem connection)]
    simp
  closed_only other listed := by
    obtain rfl : other = connection := by
      simpa [talked.closed_not_mem other] using listed
    exact ⟨List.mem_append_left _ talked.opened_mem, rfl⟩

end Talked

/-- As long as nothing was opened, all is well. -/
theorem HookContract.of_handshake {session : SessionId} (let_in : letIn session)
    (result : Except SignalingError Unit) (served : Bool) :
    HookContract letIn id [⟨.handshake session, result⟩] served where
  in_order := ⟨⟨id, session, .loopback⟩, rfl, [], by simp⟩
  let_in session result listed := by
    cases List.mem_singleton.mp listed
    exact let_in
  let_in_before := by simp
  opening_failed := List.pairwise_singleton _ _
  text_failed := List.pairwise_singleton _ _
  closed_once := by simp
  closed_only := by simp

/-- What the hooks have been told up to any stage is within the contract. -/
theorem Course.contract (course : Course letIn id log task) :
    HookContract letIn id log task.isSome := by
  cases course with
  | unheard =>
      constructor
      case in_order => exact ⟨⟨id, ⟨""⟩, .loopback⟩, rfl, [], List.nil_prefix⟩
      all_goals simp
  | refused let_in | accepted let_in same | withdrawn let_in same =>
      exact .of_handshake let_in _ _
  | @turnedAway connection error let_in same =>
      constructor
      case in_order => exact ⟨connection, same, [], by simp⟩
      all_goals simp_all
  | reading let_in same texts => exact (Talked.well texts).contract let_in same
  | ending let_in same talked => exact talked.contract let_in same
  | concluded let_in same talked => exact talked.contract_of_closed let_in same _

/-! ## Along turns -/

section

variable {σ : Type} (service : Service σ) (world : World σ)

/-- What the hooks are told of a connection in some turns. -/
def toldInTurns (turns : List Turn) (id : ConnectionId) : List Told :=
  told id (service.takeTurns (.start world) turns).2

/-- The stage at which a connection is after some turns. -/
def stage? (turns : List Turn) (id : ConnectionId) : Option Task :=
  (service.takeTurns (.start world) turns).1.tasks.get? id

theorem toldInTurns_snoc (past : List Turn) (next : Turn) (id : ConnectionId) :
    toldInTurns service world (past ++ [next]) id = toldInTurns service world past id ++
      told id (service.turn (service.takeTurns (.start world) past).1 next).2 := by
  rw [toldInTurns, Service.takeTurns_snoc, told_append]
  rfl

theorem requests_eq (turns : List Turn) :
    (service.takeTurns (.start world) turns).1.requests = (knocks turns).length := by
  rw [Service.requests_takeTurns]
  exact Nat.zero_add _

theorem stage?_snoc (past : List Turn) (next : Turn) (id : ConnectionId) :
    stage? service world (past ++ [next]) id =
      (service.turn (service.takeTurns (.start world) past).1 next).1.tasks.get? id := by
  rw [stage?, Service.takeTurns_snoc]

/-- Nothing is known or told of a connection before it is asked for. -/
theorem unheard_of (turns : List Turn) (id : ConnectionId)
    (new : (knocks turns).length ≤ id.serial) :
    stage? service world turns id = none ∧ toldInTurns service world turns id = [] := by
  -- Whether a request finds its number unused is a question about another connection, so
  -- the induction is over all of them at once.
  induction turns using List.reverseRecOn generalizing id with
  | nil => exact ⟨rfl, rfl⟩
  | append_singleton past next ih =>
      have longer : (knocks (past ++ [next])).length =
          (knocks past).length + (knocks [next]).length := by
        rw [knocks_append, List.length_append]
      obtain ⟨nowhere, unheard⟩ := ih id (by omega)
      have passage : Passage (fun about _ => about.serial < (knocks (past ++ [next])).length) id
          (stage? service world past id)
          (told id (service.turn (service.takeTurns (.start world) past).1 next).2)
          (stage? service world (past ++ [next]) id) := by
        rw [stage?_snoc]
        apply Service.passes_turn
        · rintro knock rfl
          exact (ih _ (Nat.le_of_eq (requests_eq service world past).symm)).1
        · rintro knock session rfl -
          show (service.takeTurns _ past).1.requests < _
          rw [requests_eq, longer]
          exact Nat.lt_succ_self _
      rw [nowhere] at passage
      obtain ⟨silent, still⟩ := passage.of_none fun session below => by omega
      rw [toldInTurns_snoc, unheard, silent]
      exact ⟨still, rfl⟩

/-- One more turn takes a connection one passage further; it is let in only if nothing was
heard of it before. -/
theorem passage_snoc (past : List Turn) (next : Turn) (id : ConnectionId) :
    Passage
      (fun about session => LetIn service.policy (knocks (past ++ [next])) about session ∧
        toldInTurns service world past about = []) id
      (stage? service world past id)
      (told id (service.turn (service.takeTurns (.start world) past).1 next).2)
      (stage? service world (past ++ [next]) id) := by
  rw [stage?_snoc]
  have unheard (knock : Knock) := unheard_of service world past
    ⟨(service.takeTurns (.start world) past).1.requests, knock.label⟩
    (Nat.le_of_eq (requests_eq service world past).symm)
  apply Service.passes_turn
  · rintro knock rfl
    exact (unheard knock).1
  · rintro knock session rfl admitted
    refine ⟨⟨knock, ?_, rfl, admitted⟩, (unheard knock).2⟩
    rw [requests_eq, knocks_append]
    exact List.getElem?_concat_length

theorem LetIn.append {policy : AccessPolicy} {earlier : List Knock} {id : ConnectionId}
    {session : SessionId} (let_in : LetIn policy earlier id session) (others : List Knock) :
    LetIn policy (earlier ++ others) id session := by
  obtain ⟨knock, listed, same, admitted⟩ := let_in
  refine ⟨knock, ?_, same, admitted⟩
  rw [List.getElem?_append_left (List.getElem?_eq_some_iff.mp listed).1, listed]

/-- Every connection is at some point of its course. -/
theorem course_takeTurns (turns : List Turn) (id : ConnectionId) :
    Course (LetIn service.policy (knocks turns) id) id (toldInTurns service world turns id)
      (stage? service world turns id) := by
  induction turns using List.reverseRecOn with
  | nil => exact .unheard
  | append_singleton past next ih =>
      rw [toldInTurns_snoc]
      apply (ih.mono ?_).next (passage_snoc service world past next id)
      · exact fun session fresh => fresh
      · intro session let_in
        rw [knocks_append]
        exact let_in.append _

/-- Once nothing more is read, the end is all that the hooks still hear of. -/
theorem after_the_end {past : List Turn} {id : ConnectionId}
    (known : toldInTurns service world past id ≠ [])
    (finished : isOver (stage? service world past id) = true) (others : List Turn) :
    isOver (stage? service world (past ++ others) id) = true ∧
      ∃ lasts, toldInTurns service world (past ++ others) id =
          toldInTurns service world past id ++ lasts ∧
        ∀ last ∈ lasts, ∃ connection, last.call = HookCall.closed connection := by
  induction others using List.reverseRecOn with
  | nil =>
      rw [List.append_nil]
      exact ⟨finished, [], (List.append_nil _).symm,
        fun _ nothing => absurd nothing List.not_mem_nil⟩
  | append_singleton others next ih =>
      obtain ⟨still, lasts, heard, ends⟩ := ih
      -- What has been heard of is not let in again under its number.
      obtain ⟨finished, more⟩ := (passage_snoc service world (past ++ others) next id).of_isOver
        still fun session admitted => by simp [heard, known] at admitted
      rw [← List.append_assoc past others [next], toldInTurns_snoc, heard]
      refine ⟨finished, _, List.append_assoc _ _ _, fun last listed => ?_⟩
      exact (List.mem_append.mp listed).elim (ends last) (more last)

/-- What has come to its end may be concluded in the next turn. -/
theorem stage?_conclude {turns : List Turn} {id : ConnectionId} {connection : Connection}
    {farewell : Farewell}
    (ending : stage? service world turns id = some ⟨connection, .ending farewell⟩) :
    stage? service world (turns ++ [Turn.conclude id]) id = none := by
  have here : (service.takeTurns (.start world) turns).1.tasks.get? id =
      some ⟨connection, .ending farewell⟩ := ending
  rw [stage?_snoc]
  simp only [Service.turn, here, Service.proceed, Service.concludeSocket]
  rw [Directory.get?_erase_self]

/-! ## Along runs -/

/-- The connection that an action of its client ends. -/
def ClientAction.ends? : ClientAction → Option ConnectionId
  | .close id _ | .vanish id | .garbage id => some id
  | .connect _ _ _ | .text _ _ | .aside _ => none

/-- In a run too every connection is at some point of its course. -/
theorem course_run (actions : List ClientAction) (id : ConnectionId) :
    Course (LetIn service.policy (requested actions) id) id
      (told id (service.run (.start world) actions).2)
      (((service.run (.start world) actions).1.socket? id).map (Task.mk · .reading)) := by
  obtain ⟨turns, asked, done⟩ := exists_turns_run service world actions
  have course := course_takeTurns service world turns id
  rw [asked] at course
  rwa [toldInTurns, done.reports, stage?, done.agrees.tasks] at course

theorem numbered_run (actions : List ClientAction) :
    (service.run (.start world) actions).1.Numbered := by
  obtain ⟨turns, -, done⟩ := exists_turns_run service world actions
  exact done.agrees.numbered

/-- A socket is open if its connection was taken in and the hooks have not heard of its
end. -/
theorem mem_sockets_iff (actions : List ClientAction) (connection : Connection) :
    connection ∈ (service.run (.start world) actions).1.sockets ↔
      ⟨.opened connection, .ok ()⟩ ∈
          told connection.id (service.run (.start world) actions).2 ∧
        .closed connection ∉
          (told connection.id (service.run (.start world) actions).2).map Told.call := by
  have numbered := numbered_run service world actions
  have course := course_run service world actions connection.id
  generalize told connection.id (service.run (.start world) actions).2 = log at course ⊢
  cases found : (service.run (.start world) actions).1.socket? connection.id with
  | none =>
      rw [found] at course
      constructor
      · intro open_
        rw [(Server.socket?_eq_some_iff numbered).mpr ⟨open_, rfl⟩] at found
        cases found
      · rintro ⟨opened, stays⟩
        have once := course.contract.closed_once connection opened rfl
        rw [List.count_eq_zero.mpr stays] at once
        cases once
  | some socket =>
      obtain ⟨open_, same⟩ := (Server.socket?_eq_some_iff numbered).mp found
      rw [found] at course
      cases course with
      | reading let_in _ texts =>
          have talked : Talked socket (talk socket texts) := .well texts
          constructor
          · intro listed
            obtain rfl := List.inj_on_of_nodup_map numbered.distinct listed open_ same.symm
            exact ⟨talked.opened_mem, talked.closed_not_mem connection⟩
          · rintro ⟨opened, -⟩
            rw [(talked.eq_of_opened opened).1]
            exact open_

/-- Where the hook has failed on a text, the socket is open no more. -/
theorem socket?_of_text_failed {actions : List ClientAction} {id : ConnectionId}
    {connection : Connection} {text : Octets} {error : SignalingError}
    (failed : ⟨.message connection text, .error error⟩ ∈
      told id (service.run (.start world) actions).2) :
    (service.run (.start world) actions).1.socket? id = none := by
  have course := course_run service world actions id
  cases open_ : (service.run (.start world) actions).1.socket? id with
  | none => rfl
  | some socket =>
      rw [open_] at course
      generalize told id (service.run (.start world) actions).2 = log at failed course
      cases course with
      | reading let_in same texts => simp [talk] at failed

/-- What its client has ended is open no more. -/
theorem socket?_of_ends {action : ClientAction} {id : ConnectionId}
    (ends : action.ends? = some id) (actions : List ClientAction) :
    (service.run (.start world) (actions ++ [action])).1.socket? id = none := by
  rw [Service.run_snoc_fst]
  generalize (service.run (.start world) actions).1 = server
  have gone : (service.act server action).1.socket? id = none := by
    cases action with
    | connect label address request | text other content | aside other => cases ends
    | close other frame | vanish other | garbage other =>
        cases ends
        simp only [Service.act]
        split
        · next nobody => exact nobody
        · next socket found =>
          have same : socket.id = id := by simpa using List.find?_some found
          exact (Server.socket?_finish service socket _ server id).trans (if_pos same.symm)
  rw [Server.socket?, List.find?_eq_none] at gone ⊢
  intro socket open_
  exact gone socket ((Service.sublist_settle service _).1.subset open_)

/-- What is marked for closing is open no more. -/
theorem socket?_of_isClosing {actions : List ClientAction} {id : ConnectionId}
    (marked : (service.run (.start world) actions).1.world.wires.isClosing id = true) :
    (service.run (.start world) actions).1.socket? id = none := by
  rw [Server.socket?, List.find?_eq_none]
  intro socket open_ same
  have unmarked := Service.isClosing_run service world actions socket open_
  rw [of_decide_eq_true same, marked] at unmarked
  cases unmarked

/-- A server keeps its part of the contract with the hooks. -/
structure KeepsContract : Prop where
  /-- It does so where one thing is done after another, -/
  of_run : ∀ actions id, HookContract (LetIn service.policy (requested actions) id) id
    (told id (service.run (.start world) actions).2)
    ((service.run (.start world) actions).1.socket? id).isSome
  /-- where a socket is at its end if its client has ended it, -/
  ended : ∀ actions (action : ClientAction) id, action.ends? = some id →
    (service.run (.start world) (actions ++ [action])).1.socket? id = none
  /-- if the hook has failed on a text, -/
  failed : ∀ actions id connection text error,
    ⟨.message connection text, .error error⟩ ∈
      told id (service.run (.start world) actions).2 →
        (service.run (.start world) actions).1.socket? id = none
  /-- or if the hooks have hung it up. -/
  hung_up : ∀ actions id,
    (service.run (.start world) actions).1.world.wires.isClosing id = true →
      (service.run (.start world) actions).1.socket? id = none
  /-- It does so where connections take turns in any order, -/
  of_turns : ∀ turns id, HookContract (LetIn service.policy (knocks turns) id) id
    (toldInTurns service world turns id) (stage? service world turns id).isSome
  /-- where the hooks hear only of the end once nothing more is read, -/
  nothing_more : ∀ past others id, toldInTurns service world past id ≠ [] →
    isOver (stage? service world past id) = true →
      ∃ lasts, toldInTurns service world (past ++ others) id =
          toldInTurns service world past id ++ lasts ∧
        ∀ last ∈ lasts, ∃ connection, last.call = HookCall.closed connection
  /-- and can hear of it at any time. -/
  concluded : ∀ turns id connection farewell,
    stage? service world turns id = some ⟨connection, .ending farewell⟩ →
      stage? service world (turns ++ [Turn.conclude id]) id = none
  /-- And what is reported of a call, in a run -/
  answer_of_run : ∀ actions before id call result later,
    (service.run (.start world) actions).2 = before ++ .called id call result :: later →
      ∃ reached, Reached service.hooks world before reached ∧
        result = (service.hooks.answer call reached).result
  /-- or in turns, is what the hooks answered in the world that was reached by then. -/
  answer_of_turns : ∀ turns before id call result later,
    (service.takeTurns (.start world) turns).2 = before ++ .called id call result :: later →
      ∃ reached, Reached service.hooks world before reached ∧
        result = (service.hooks.answer call reached).result

/-- Every server keeps the contract, whatever its hooks and its policy are. -/
theorem keepsContract : KeepsContract service world where
  of_run actions id := by
    have within := (course_run service world actions id).contract
    rwa [Option.isSome_map] at within
  ended actions action id ends := socket?_of_ends service world ends actions
  failed actions id connection text error := socket?_of_text_failed service world
  hung_up actions id := socket?_of_isClosing service world
  of_turns turns id := (course_takeTurns service world turns id).contract
  nothing_more past others id known finished :=
    (after_the_end service world known finished others).2
  concluded turns id connection farewell := stage?_conclude service world
  answer_of_run actions before id call result later split := by
    have reached := service.reached_run world actions
    rw [split] at reached
    obtain ⟨there, so_far, answer, -⟩ := reached.exists_of_called
    exact ⟨there, so_far, answer⟩
  answer_of_turns turns before id call result later split := by
    have reached := service.reached_takeTurns (.start world) turns
    rw [split] at reached
    obtain ⟨there, so_far, answer, -⟩ := reached.exists_of_called
    exact ⟨there, so_far, answer⟩

end

end Rendezvous
