/-
# Wishes

What is wanted of a relay is a switch at most, an address, and files and lists. Items say it
one by one, the values of one setting in their order and all else in any order. What has been
said so far can be told from a draft, and once all is said the draft comes to the configuration
that was wanted. How items are written in words is left open here.
-/

import Rendezvous.Configuration
import Mathlib.Data.List.Nodup

namespace Rendezvous

theorem ListenAddress.parse_eq_ok_iff {value : String} {address : ListenAddress} :
    parse value = .ok address ↔ parse? value = some address := by
  unfold parse
  split <;> simp [*]

namespace CommandLine

/-! ## Items -/

/-- One thing that is said on a command line. -/
inductive Item
  | switch (switch : Switch)
  | setting (setting : Setting) (value : String)
  deriving DecidableEq, Repr

namespace Item

/-- The option that is named. -/
def choice : Item → Choice
  | .switch turned => .switch turned
  | .setting named _ => .setting named

/-- The switch that is turned on. -/
def switch? : Item → Option Switch
  | .switch turned => some turned
  | .setting _ _ => none

/-- The value that is given to a setting. -/
def value? (setting : Setting) : Item → Option String
  | .switch _ => none
  | .setting named value => if named = setting then some value else none

end Item

/-- The switches among items. -/
def switchesOf (items : List Item) : List Switch := items.filterMap Item.switch?

/-- The values that items give to a setting, in their order. -/
def valuesOf (setting : Setting) (items : List Item) : List String :=
  items.filterMap (Item.value? setting)

section

variable {items more : List Item} {setting : Setting} {value : String} {switch : Switch}

theorem switchesOf_append : switchesOf (items ++ more) = switchesOf items ++ switchesOf more :=
  List.filterMap_append

theorem valuesOf_append :
    valuesOf setting (items ++ more) = valuesOf setting items ++ valuesOf setting more :=
  List.filterMap_append

@[simp] theorem valuesOf_snoc_switch :
    valuesOf setting (items ++ [.switch switch]) = valuesOf setting items := by
  simp [valuesOf, Item.value?]

@[simp] theorem valuesOf_snoc_setting : valuesOf setting (items ++ [.setting setting value]) =
    valuesOf setting items ++ [value] := by
  simp [valuesOf, Item.value?]

@[simp] theorem valuesOf_snoc_other {other : Setting} (apart : other ≠ setting) :
    valuesOf setting (items ++ [.setting other value]) = valuesOf setting items := by
  simp [valuesOf, Item.value?, apart]

theorem mem_switchesOf_iff :
    switch ∈ switchesOf items ↔ .switch switch ∈ items.map Item.choice := by
  simp only [switchesOf, List.mem_filterMap, List.mem_map]
  refine exists_congr fun item => and_congr_right fun _ => ?_
  cases item <;> simp [Item.switch?, Item.choice]

theorem valuesOf_eq_nil_iff :
    valuesOf setting items = [] ↔ .setting setting ∉ items.map Item.choice := by
  rw [valuesOf, List.filterMap_eq_nil_iff, List.mem_map, not_exists]
  refine forall_congr' fun item => ?_
  cases item <;> simp [Item.value?, Item.choice]

end

/-! ## Wishes -/

/-- What is wanted of a relay. -/
structure Wish where
  switch? : Option Switch
  /-- How the address is written, -/
  listen : String
  /-- and which one it is. -/
  address : ListenAddress
  certfile : Option String
  keyfile : Option String
  paths : List String
  hosts : List String
  origins : List String
  iceServers : List String
  listens : ListenAddress.parse listen = .ok address
  certfile_ne : certfile ≠ some ""
  keyfile_ne : keyfile ≠ some ""

/-- A text that a setting takes for a value. -/
def Setting.Takes : Setting → String → Prop
  | .listen, value => ∃ address, ListenAddress.parse value = .ok address
  | .certfile, value | .keyfile, value => value ≠ ""
  | .path, _ | .host, _ | .origin, _ | .iceServer, _ => True

namespace Wish

/-- What is wanted of a setting. -/
def values (wish : Wish) : Setting → List String
  | .listen => [wish.listen]
  | .certfile => wish.certfile.toList
  | .keyfile => wish.keyfile.toList
  | .path => wish.paths
  | .host => wish.hosts
  | .origin => wish.origins
  | .iceServer => wish.iceServers

/-- What comes of a wish: files count for a relay that listens with TLS, which needs both. -/
def outcome (wish : Wish) : Except ConfigError Configuration :=
  let configured (tls : Option TlsFiles) : Configuration :=
    { listen := wish.address
      tls := tls
      policy := ⟨wish.paths, wish.hosts, wish.origins⟩
      peers := ⟨if wish.iceServers = [] then [defaultIceServer] else wish.iceServers⟩
      logLevel :=
        match wish.switch? with
        | none => .info
        | some .verbose => .debug
        | some .quiet => .error }
  match wish.address.transport, wish.certfile, wish.keyfile with
  | .tcp, _, _ => .ok (configured none)
  | .tls, some certfile, some keyfile => .ok (configured (some ⟨certfile, keyfile⟩))
  | .tls, _, _ => .error .missingTlsFiles

/-- The arguments that say a wish. -/
def arguments (wish : Wish) : Arguments :=
  { verbose := wish.switch? = some .verbose
    quiet := wish.switch? = some .quiet
    listen := wish.address
    certfile := wish.certfile
    keyfile := wish.keyfile
    paths := wish.paths
    hosts := wish.hosts
    origins := wish.origins
    iceServers := wish.iceServers }

theorem logLevel_arguments (wish : Wish) : wish.arguments.logLevel =
    match wish.switch? with
    | none => .info
    | some .verbose => .debug
    | some .quiet => .error := by
  rw [Arguments.logLevel, arguments]
  cases wish.switch? with
  | none => rfl
  | some switch => cases switch <;> rfl

theorem peers_arguments (wish : Wish) : wish.arguments.peers =
    ⟨if wish.iceServers = [] then [defaultIceServer] else wish.iceServers⟩ := by
  rw [Arguments.peers, arguments]
  cases wish.iceServers <;> rfl

/-- The arguments come to what was wished for. -/
theorem ofArguments_arguments (wish : Wish) :
    Configuration.ofArguments wish.arguments = wish.outcome := by
  rw [Configuration.ofArguments, outcome, logLevel_arguments, peers_arguments,
    Arguments.tlsFiles]
  dsimp only [arguments]
  cases wish.address.transport with
  | tcp => rfl
  | tls =>
      cases wish.certfile with
      | none => rfl
      | some certfile => cases wish.keyfile <;> rfl

theorem takes_of_mem {wish : Wish} {setting : Setting} {value : String}
    (wanted : value ∈ wish.values setting) : setting.Takes value := by
  cases setting with
  | listen =>
      cases List.mem_singleton.mp wanted
      exact ⟨wish.address, wish.listens⟩
  | certfile =>
      rintro rfl
      exact wish.certfile_ne (Option.mem_toList.mp wanted)
  | keyfile =>
      rintro rfl
      exact wish.keyfile_ne (Option.mem_toList.mp wanted)
  | path | host | origin | iceServer => trivial

theorem length_values_le (wish : Wish) {setting : Setting}
    (single : Draft.isRepeatable setting = false) : (wish.values setting).length ≤ 1 := by
  cases setting with
  | listen => exact Nat.le_refl 1
  | certfile => exact Option.length_toList_le
  | keyfile => exact Option.length_toList_le
  | path | host | origin | iceServer => cases single

end Wish

/-- Items say a wish, each value once and those of one setting in their order. -/
structure Expresses (items : List Item) (wish : Wish) : Prop where
  switches : switchesOf items = wish.switch?.toList
  values : ∀ setting, valuesOf setting items = wish.values setting

/-- Nothing comes before what is alone. -/
theorem eq_nil_of_length_append_cons_le {α : Type} {before after : List α} {a : α}
    (short : (before ++ a :: after).length ≤ 1) : before = [] := by
  rw [List.length_append, List.length_cons] at short
  exact List.eq_nil_of_length_eq_zero (by omega)

namespace Expresses

variable {past rest : List Item} {wish : Wish}

theorem switches_append_cons {switch : Switch}
    (expressed : Expresses (past ++ .switch switch :: rest) wish) :
    switchesOf past ++ switch :: switchesOf rest = wish.switch?.toList := by
  rw [← expressed.switches, switchesOf_append]
  simp [switchesOf, Item.switch?]

theorem values_append_cons {setting : Setting} {value : String}
    (expressed : Expresses (past ++ .setting setting value :: rest) wish) :
    valuesOf setting past ++ value :: valuesOf setting rest = wish.values setting := by
  rw [← expressed.values, valuesOf_append]
  simp [valuesOf, Item.value?]

/-- Nothing has been turned on before a switch is, -/
theorem switch_fresh {switch : Switch}
    (expressed : Expresses (past ++ .switch switch :: rest) wish) : switchesOf past = [] := by
  have short : (switchesOf past ++ switch :: switchesOf rest).length ≤ 1 := by
    rw [expressed.switches_append_cons]
    exact Option.length_toList_le
  exact eq_nil_of_length_append_cons_le short

/-- and a setting with a single value has not been given one before. -/
theorem setting_fresh {setting : Setting} {value : String}
    (expressed : Expresses (past ++ .setting setting value :: rest) wish)
    (single : Draft.isRepeatable setting = false) : valuesOf setting past = [] := by
  have short : (valuesOf setting past ++ value :: valuesOf setting rest).length ≤ 1 := by
    rw [expressed.values_append_cons]
    exact wish.length_values_le single
  exact eq_nil_of_length_append_cons_le short

/-- What is given next is a value. -/
theorem takes {setting : Setting} {value : String}
    (expressed : Expresses (past ++ .setting setting value :: rest) wish) :
    setting.Takes value := by
  have wanted : value ∈ wish.values setting := by
    rw [← expressed.values_append_cons]
    exact List.mem_append_right _ List.mem_cons_self
  exact Wish.takes_of_mem wanted

end Expresses

/-! ## Drafts -/

namespace Draft

variable {draft : Draft} {items : List Item}

theorem isGiven_iff {choice : Choice} : draft.isGiven choice = true ↔ choice ∈ draft.given :=
  List.contains_iff_mem

/-- A draft holds the values that items give. -/
structure Holds (draft : Draft) (items : List Item) : Prop where
  listen : draft.listen = (valuesOf .listen items).getLast?.bind ListenAddress.parse?
  certfile : draft.certfile = (valuesOf .certfile items).getLast?
  keyfile : draft.keyfile = (valuesOf .keyfile items).getLast?
  paths : draft.paths = valuesOf .path items
  hosts : draft.hosts = valuesOf .host items
  origins : draft.origins = valuesOf .origin items
  iceServers : draft.iceServers = valuesOf .iceServer items

/-- A draft knows which options items name. -/
structure Knows (draft : Draft) (items : List Item) : Prop where
  given : ∀ choice, choice ∈ draft.given ↔ choice ∈ items.map Item.choice
  nodup : draft.given.Nodup

/-- All that was said is in a draft, and nothing is left open. -/
structure Reflects (draft : Draft) (items : List Item) : Prop where
  holds : draft.Holds items
  knows : draft.Knows items
  waiting : draft.waiting = none
  escaped : draft.escaped = false

theorem reflects_start : start.Reflects [] where
  holds := ⟨rfl, rfl, rfl, rfl, rfl, rfl, rfl⟩
  knows := ⟨fun _ => Iff.rfl, List.nodup_nil⟩
  waiting := rfl
  escaped := rfl

/-- Every value goes to its own place, -/
theorem Holds.fill (holds : draft.Holds items) {setting : Setting} {value : String}
    (takes : setting.Takes value) :
    ∃ filled, draft.fill setting value = .ok filled ∧
      filled.Holds (items ++ [.setting setting value]) := by
  obtain ⟨listen, certfile, keyfile, paths, hosts, origins, iceServers⟩ := holds
  cases setting with
  | listen =>
      obtain ⟨address, parsed⟩ := takes
      refine ⟨_, by rw [Draft.fill, parsed], ?_⟩
      constructor <;> simp [*, ListenAddress.parse_eq_ok_iff.mp parsed]
  | certfile | keyfile =>
      have nonempty : ¬ value.isEmpty = true := mt String.isEmpty_iff.mp takes
      refine ⟨_, by rw [Draft.fill, if_neg nonempty], ?_⟩
      constructor <;> simp [*]
  | path | host | origin | iceServer =>
      refine ⟨_, rfl, ?_⟩
      constructor <;> simp [*]

/-- and nothing else changes. -/
theorem fill_frame {filled : Draft} {setting : Setting} {value : String}
    (done : draft.fill setting value = .ok filled) :
    filled.given = draft.given ∧ filled.waiting = draft.waiting ∧
      filled.escaped = draft.escaped := by
  cases setting with
  | listen =>
      rw [Draft.fill] at done
      split at done
      · cases done
        exact ⟨rfl, rfl, rfl⟩
      · cases done
  | certfile | keyfile =>
      rw [Draft.fill] at done
      split at done
      · cases done
      · cases done
        exact ⟨rfl, rfl, rfl⟩
  | path | host | origin | iceServer =>
      cases done
      exact ⟨rfl, rfl, rfl⟩

theorem Knows.note (knows : draft.Knows items) (item : Item) :
    (draft.note item.choice).Knows (items ++ [item]) := by
  unfold Draft.note
  split
  · next already =>
    refine ⟨fun choice => ?_, knows.nodup⟩
    rw [isGiven_iff, knows.given] at already
    rw [knows.given, List.map_append, List.mem_append]
    exact ⟨.inl, fun either => either.elim id fun here => List.mem_singleton.mp here ▸ already⟩
  · next fresh =>
    rw [isGiven_iff] at fresh
    refine ⟨fun choice => ?_, List.nodup_cons.mpr ⟨fresh, knows.nodup⟩⟩
    simp [knows.given choice, or_comm]

theorem Holds.congr {others : List Item} (holds : draft.Holds items)
    (same : ∀ setting, valuesOf setting others = valuesOf setting items) :
    draft.Holds others := by
  constructor <;> rw [same]
  exacts [holds.listen, holds.certfile, holds.keyfile, holds.paths, holds.hosts, holds.origins,
    holds.iceServers]

theorem Holds.note (holds : draft.Holds items) (choice : Choice) :
    (draft.note choice).Holds items := by
  unfold Draft.note
  split
  · exact holds
  · exact ⟨holds.listen, holds.certfile, holds.keyfile, holds.paths, holds.hosts, holds.origins,
      holds.iceServers⟩

theorem note_frame (draft : Draft) (choice : Choice) :
    (draft.note choice).waiting = draft.waiting ∧ (draft.note choice).escaped = draft.escaped := by
  unfold Draft.note
  split <;> exact ⟨rfl, rfl⟩

namespace Reflects

/-- A switch is turned on. -/
theorem turnOn (reflects : draft.Reflects items) {switch : Switch}
    (fresh : switchesOf items = []) :
    ∃ turned, draft.turnOn switch = .ok turned ∧ turned.Reflects (items ++ [.switch switch]) := by
  have off : ¬ draft.isGiven (.switch switch) = true := by
    rw [isGiven_iff, reflects.knows.given, ← mem_switchesOf_iff, fresh]
    exact List.not_mem_nil
  refine ⟨draft.note (.switch switch), by rw [Draft.turnOn, if_neg off], ?_⟩
  obtain ⟨waiting, escaped⟩ := note_frame draft (.switch switch)
  constructor
  case holds =>
    exact (reflects.holds.note _).congr fun _ => valuesOf_snoc_switch
  case knows => exact reflects.knows.note (.switch switch)
  case waiting => rw [waiting, reflects.waiting]
  case escaped => rw [escaped, reflects.escaped]

/-- A value is given. -/
theorem store (reflects : draft.Reflects items) {setting : Setting} {value : String}
    (takes : setting.Takes value)
    (fresh : isRepeatable setting = false → valuesOf setting items = []) :
    ∃ stored, draft.store setting value = .ok stored ∧
      stored.Reflects (items ++ [.setting setting value]) := by
  have free : (draft.isGiven (.setting setting) && !isRepeatable setting) = false := by
    cases single : isRepeatable setting with
    | true => exact Bool.and_false _
    | false =>
        have absent := valuesOf_eq_nil_iff.mp (fresh single)
        rw [← reflects.knows.given, ← isGiven_iff] at absent
        rw [Bool.eq_false_iff.mpr absent]
        rfl
  obtain ⟨filled, done, holds⟩ := reflects.holds.fill takes
  obtain ⟨given, waiting, escaped⟩ := fill_frame done
  have knows : filled.Knows items :=
    ⟨by rw [given]; exact reflects.knows.given, given ▸ reflects.knows.nodup⟩
  refine ⟨filled.note (.setting setting), by rw [Draft.store, free, done]; rfl, ?_⟩
  obtain ⟨waiting', escaped'⟩ := note_frame filled (.setting setting)
  constructor
  case holds => exact holds.note _
  case knows => exact knows.note (.setting setting value)
  case waiting => rw [waiting', waiting, reflects.waiting]
  case escaped => rw [escaped', escaped, reflects.escaped]

/-- A switch alone conflicts with nothing. -/
theorem conflict?_eq_none {switch? : Option Switch} (reflects : draft.Reflects items)
    (single : switchesOf items = switch?.toList) : draft.conflict? = none := by
  unfold conflict?
  split
  · next first second both =>
    have distinct : [Choice.switch first, .switch second].Nodup :=
      both ▸ (List.nodup_reverse.mpr reflects.knows.nodup).filter _
    have turned (switch : Switch) (here : Choice.switch switch ∈ [.switch first, .switch second]) :
        switch ∈ switch?.toList := by
      rw [← both, List.mem_filter, List.mem_reverse, reflects.knows.given] at here
      rw [← single, mem_switchesOf_iff]
      exact here.1
    have one := Option.mem_toList.mp (turned first (by simp))
    have other := Option.mem_toList.mp (turned second (by simp))
    cases one.symm.trans other
    simp at distinct
  · rfl

/-- Once a wish is said, the end of the command line comes to its arguments. -/
theorem finish {wish : Wish} (reflects : draft.Reflects items)
    (expressed : Expresses items wish) : draft.finish = .ok wish.arguments := by
  have resolved : draft.resolve = .ok draft := by
    rw [resolve, reflects.waiting]
  have listen : draft.listen = some wish.address := by
    rw [reflects.holds.listen, expressed.values]
    exact ListenAddress.parse_eq_ok_iff.mp wish.listens
  have given (switch : Switch) :
      draft.isGiven (.switch switch) = decide (wish.switch? = some switch) := by
    rw [Bool.eq_iff_iff, isGiven_iff, reflects.knows.given, ← mem_switchesOf_iff,
      expressed.switches, Option.mem_toList, decide_eq_true_iff]
  have file (file : Option String) : file.toList.getLast? = file := by cases file <;> rfl
  have noConflict := reflects.conflict?_eq_none expressed.switches
  obtain ⟨holds, -, -, -⟩ := reflects
  simp only [Draft.finish, resolved, bind, Except.bind, noConflict, listen, given, holds.certfile,
    holds.keyfile, holds.paths, holds.hosts, holds.origins, holds.iceServers, expressed.values,
    Wish.values, file]
  rfl

end Reflects

end Draft

end CommandLine

end Rendezvous
