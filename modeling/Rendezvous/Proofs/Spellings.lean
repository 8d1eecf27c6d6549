/-
# Spellings

One item may be written in several ways: a switch by its name or by its letter, a setting with
its value in the same word or in the next one, and the address also by a letter, behind the
letters of switches. Whatever way is chosen for each item, the words read back as the
configuration that they were written for.

Reading lags behind: a value in a word of its own is only looked at when the next option comes.
So what holds between two groups of words is said of the draft once its open value has been
looked at.
-/

import Rendezvous.Proofs.Wishes

namespace Rendezvous

/-! ## Addresses -/

namespace ListenAddress

theorem splitColon_eq_some {chars before rest : List Char}
    (split : splitColon chars = some (before, rest)) : chars = before ++ ':' :: rest := by
  induction chars generalizing before with
  | nil => cases split
  | cons char more ih =>
      rw [splitColon] at split
      split at split
      · next colon =>
        cases split
        rw [colon]
        rfl
      · obtain ⟨⟨front, back⟩, found, same⟩ := Option.map_eq_some_iff.mp split
        cases same
        rw [ih found]
        rfl

/-- The word for a transport stands in front of every address. -/
theorem exists_toList {value : String} {address : ListenAddress}
    (parsed : parse value = .ok address) : ∃ rest, value.toList = 't' :: rest := by
  rw [parse_eq_ok_iff, parse?] at parsed
  simp only [Option.bind_eq_bind, Option.bind_eq_some_iff, Prod.exists] at parsed
  obtain ⟨word, rest, split, host, port, -, transport, known, -⟩ := parsed
  rw [splitColon_eq_some split]
  unfold Transport.ofWord? at known
  split at known
  · next tcp => exact ⟨_, by rw [tcp]; rfl⟩
  · split at known
    · next tls => exact ⟨_, by rw [tls]; rfl⟩
    · cases known

end ListenAddress

/-! ## Words -/

namespace CommandLine

/-- The long word of a switch. -/
def Switch.word : Switch → String
  | .verbose => "--verbose"
  | .quiet => "--quiet"

/-- The letter of a switch. -/
def Switch.letter : Switch → Char
  | .verbose => 'd'
  | .quiet => 'q'

/-- The letters of switches, in one piece. -/
def Switch.letters (switches : List Switch) : String := .ofList (switches.map Switch.letter)

/-- The long word of a setting. -/
def Setting.word : Setting → String
  | .listen => "--listen"
  | .certfile => "--certfile"
  | .keyfile => "--keyfile"
  | .path => "--path"
  | .host => "--host"
  | .origin => "--origin"
  | .iceServer => "--ice-server"

/-- A text that may be a value in a word of its own: a lone dash, or anything that does not
start with one. -/
def MayStandAlone (value : String) : Prop :=
  value = "-" ∨ value.toList.head? ≠ some '-'

/-- The words for items that are written together. -/
inductive Spelling : List Item → List String → Prop
  | name (switch : Switch) : Spelling [.switch switch] [switch.word]
  | letters (switch : Switch) (more : List Switch) :
    Spelling ((switch :: more).map .switch) ["-" ++ Switch.letters (switch :: more)]
  | attached (setting : Setting) (value : String) :
    Spelling [.setting setting value] [setting.word ++ "=" ++ value]
  | apart (setting : Setting) {value : String} (alone : MayStandAlone value) :
    Spelling [.setting setting value] [setting.word, value]
  | listenApart (switches : List Switch) (value : String) :
    Spelling (switches.map .switch ++ [.setting .listen value])
      ["-" ++ Switch.letters switches ++ "l", value]
  | listenAttached (switches : List Switch) (value : String) :
    Spelling (switches.map .switch ++ [.setting .listen value])
      ["-" ++ Switch.letters switches ++ "l" ++ value]
  | listenEquals (switches : List Switch) (value : String) :
    Spelling (switches.map .switch ++ [.setting .listen value])
      ["-" ++ Switch.letters switches ++ "l=" ++ value]

/-- The words for items, group by group. -/
inductive Spelled : List Item → List String → Prop
  | nil : Spelled [] []
  | append {group items : List Item} {words more : List String} (spelling : Spelling group words)
    (spelled : Spelled items more) : Spelled (group ++ items) (words ++ more)

/-! ### What the words are -/

@[simp] theorem Choice.ofName?_name (choice : Choice) : ofName? choice.name = some choice := by
  cases choice with
  | switch switch => cases switch <;> rfl
  | setting setting => cases setting <;> rfl
  | question question => cases question <;> rfl

@[simp] theorem Choice.ofLetter?_letter (switch : Switch) :
    ofLetter? switch.letter = some (.switch switch) := by
  cases switch <;> rfl

theorem Switch.letter_ne_dash (switch : Switch) : switch.letter ≠ '-' := by
  cases switch <;> decide

namespace Word

theorem of_switch (switch : Switch) :
    Word.of switch.word = .long (Choice.switch switch).name none := by
  cases switch <;> rfl

theorem of_setting (setting : Setting) :
    Word.of setting.word = .long (Choice.setting setting).name none := by
  cases setting <;> rfl

/-- The first equals sign ends the name, whatever the value is. -/
theorem of_attached (setting : Setting) (value : String) :
    Word.of (setting.word ++ "=" ++ value) =
      .long (Choice.setting setting).name (some value) := by
  have chars : (setting.word ++ "=" ++ value).toList =
      setting.word.toList ++ '=' :: value.toList := by
    simp
  rw [Word.of, chars]
  cases setting <;> simp [Setting.word, Choice.name]

theorem of_letters {word : String} {first : Char} {rest : List Char}
    (chars : word.toList = '-' :: first :: rest) (letter : first ≠ '-') :
    Word.of word = .letters first rest := by
  rw [Word.of, chars]
  split <;> simp_all

theorem of_mayStandAlone {value : String} (alone : MayStandAlone value) :
    Word.of value = .plain := by
  rcases alone with rfl | noDash
  · rfl
  · rw [Word.of]
    split <;> simp_all

end Word

/-! ## Reading -/

namespace Draft

variable {draft : Draft} {past : List Item} {wish : Wish}

/-- All that was said is in a draft once its open value has been looked at. -/
def Understands (draft : Draft) (items : List Item) : Prop :=
  draft.escaped = false ∧ ∃ calm, draft.resolve = .ok calm ∧ calm.Reflects items

theorem Reflects.understands (reflects : draft.Reflects past) : draft.Understands past :=
  ⟨reflects.escaped, draft, by rw [resolve, reflects.waiting], reflects⟩

theorem takeAll_append (draft : Draft) (words more : List String) :
    draft.takeAll (words ++ more) = draft.takeAll words >>= fun next => next.takeAll more := by
  induction words generalizing draft with
  | nil => rfl
  | cons word rest ih =>
      rw [List.cons_append, takeAll, takeAll]
      cases draft.take word with
      | error interruption => rfl
      | ok next => exact ih next

theorem takeAll_cons {next : Draft} {word : String} (done : draft.take word = .ok next)
    (rest : List String) : draft.takeAll (word :: rest) = next.takeAll rest := by
  rw [takeAll, done]
  rfl

/-! ### One word -/

theorem take_long {name : String} {value : Option String} {word : String}
    (free : draft.escaped = false) (long : Word.of word = .long name value) :
    draft.take word = draft.takeLong name value := by
  rw [take, free, long]
  rfl

theorem take_letters {word : String} {letters : List Char} (free : draft.escaped = false)
    (chars : word.toList = '-' :: letters)
    (noDash : ∃ first rest, letters = first :: rest ∧ first ≠ '-') :
    draft.take word = draft.takeLetters letters := by
  obtain ⟨first, rest, rfl, letter⟩ := noDash
  rw [take, free, Word.of_letters chars letter]
  rfl

namespace Understands

variable (understands : draft.Understands past)

include understands

/-- A switch is turned on, by its name or by its letter. -/
theorem turnOn {switch : Switch} (fresh : switchesOf past = []) :
    ∃ next, (misused draft.resolve >>= fun calm => misused (calm.turnOn switch)) = .ok next ∧
      next.Understands (past ++ [.switch switch]) := by
  obtain ⟨-, calm, resolved, reflects⟩ := understands
  obtain ⟨turned, done, reflects'⟩ : ∃ turned, calm.turnOn switch = .ok turned ∧ _ :=
    reflects.turnOn fresh
  refine ⟨turned, ?_, reflects'.understands⟩
  rw [resolved]
  exact congrArg misused done

/-- A value is given in the word of its setting. -/
theorem takeSetting {setting : Setting} {value : String} (takes : setting.Takes value)
    (fresh : isRepeatable setting = false → valuesOf setting past = []) :
    ∃ next, draft.takeSetting setting (some value) = .ok next ∧
      next.Understands (past ++ [.setting setting value]) := by
  obtain ⟨-, calm, resolved, reflects⟩ := understands
  obtain ⟨stored, done, reflects'⟩ := reflects.store takes fresh
  refine ⟨stored, ?_, reflects'.understands⟩
  rw [Draft.takeSetting, resolved]
  exact congrArg misused done

/-- A value is given in the word after that of its setting. -/
theorem takeSetting_take {setting : Setting} {value : String} (takes : setting.Takes value)
    (fresh : isRepeatable setting = false → valuesOf setting past = [])
    (alone : MayStandAlone value) :
    ∃ open_ next, draft.takeSetting setting none = .ok open_ ∧ open_.take value = .ok next ∧
      next.Understands (past ++ [.setting setting value]) := by
  obtain ⟨-, calm, resolved, reflects⟩ := understands
  obtain ⟨stored, done, reflects'⟩ := reflects.store takes fresh
  refine ⟨calm.await setting, { calm with waiting := some (setting, some value) }, ?_, ?_, ?_⟩
  · rw [Draft.takeSetting, resolved]
    rfl
  · rw [take, await, Word.of_mayStandAlone alone]
    simp only [reflects.escaped, Bool.false_eq_true, if_false]
  · refine ⟨reflects.escaped, stored, ?_, reflects'⟩
    -- Looking at the value leaves nothing open, as nothing was open before.
    have same : { calm with waiting := none } = calm := by
      rw [← reflects.waiting]
    rw [resolve]
    exact (congrArg (Draft.store · setting value) same).trans done

/-- The letters of switches are taken one by one. -/
theorem takeLetters_switches {switches : List Switch} {rest : List Item}
    (expressed : Expresses (past ++ (switches.map .switch ++ rest)) wish) (more : List Char) :
    ∃ next : Draft,
      draft.takeLetters (switches.map Switch.letter ++ more) = next.takeLetters more ∧
      next.Understands (past ++ switches.map .switch) := by
  induction switches generalizing draft past with
  | nil => exact ⟨draft, rfl, by rwa [List.map_nil, List.append_nil]⟩
  | cons switch others ih =>
      obtain ⟨turned, done, understood⟩ := understands.turnOn expressed.switch_fresh
      rw [List.map_cons, List.cons_append, List.append_cons] at expressed
      obtain ⟨next, taken, understood'⟩ := ih understood expressed
      refine ⟨next, ?_, by simpa using understood'⟩
      rw [← taken, List.map_cons, List.cons_append, takeLetters, Choice.ofLetter?_letter]
      calc
        _ = (misused draft.resolve >>= fun calm => misused (calm.turnOn switch)) >>=
            fun next : Draft => next.takeLetters (others.map Switch.letter ++ more) :=
          (bind_assoc _ _ _).symm
        _ = turned.takeLetters (others.map Switch.letter ++ more) := by rw [done]; rfl

/-- Behind the letters of switches comes the letter of the address. -/
theorem take_listen {switches : List Switch} {rest : List Item} {word : String}
    {attached : List Char}
    (expressed : Expresses (past ++ (switches.map .switch ++ rest)) wish)
    (chars : word.toList = '-' :: (switches.map Switch.letter ++ 'l' :: attached)) :
    ∃ next : Draft, draft.take word = next.takeSetting .listen (attachedValue attached) ∧
      next.Understands (past ++ switches.map .switch) := by
  have noDash : ∃ first rest, switches.map Switch.letter ++ 'l' :: attached = first :: rest ∧
      first ≠ '-' := by
    cases switches with
    | nil => exact ⟨'l', attached, rfl, by decide⟩
    | cons switch others => exact ⟨_, _, rfl, switch.letter_ne_dash⟩
  obtain ⟨next, taken, understood⟩ := understands.takeLetters_switches expressed ('l' :: attached)
  exact ⟨next, by rw [take_letters understands.1 chars noDash, taken]; rfl, understood⟩

/-- An address is given in the word of its letter. -/
theorem take_listen_attached {switches : List Switch} {value : String} {rest : List Item}
    {word : String} {attached : List Char}
    (expressed : Expresses (past ++ (switches.map .switch ++ .setting .listen value :: rest)) wish)
    (chars : word.toList = '-' :: (switches.map Switch.letter ++ 'l' :: attached))
    (whole : Setting.listen.Takes value → attachedValue attached = some value) :
    ∃ next, draft.takeAll [word] = .ok next ∧
      next.Understands (past ++ (switches.map .switch ++ [.setting .listen value])) := by
  obtain ⟨calm, taken, understood⟩ := understands.take_listen expressed chars
  rw [← List.append_assoc] at expressed ⊢
  obtain ⟨next, done, understood'⟩ :=
    understood.takeSetting expressed.takes expressed.setting_fresh
  rw [whole expressed.takes] at taken
  exact ⟨next, takeAll_cons (taken.trans done) [], understood'⟩

end Understands

end Draft

/-- An address may stand alone, and behind its letter it does not look like anything else. -/
theorem Setting.Takes.mayStandAlone {value : String} (takes : Setting.listen.Takes value) :
    MayStandAlone value := by
  obtain ⟨address, parsed⟩ := takes
  obtain ⟨rest, chars⟩ := ListenAddress.exists_toList parsed
  right
  rw [chars]
  simp

theorem Setting.Takes.attachedValue {value : String} (takes : Setting.listen.Takes value) :
    Draft.attachedValue value.toList = some value := by
  obtain ⟨address, parsed⟩ := takes
  obtain ⟨rest, chars⟩ := ListenAddress.exists_toList parsed
  have whole : Draft.attachedValue value.toList = some (String.ofList value.toList) := by
    rw [chars]
    rfl
  rw [whole, String.ofList_toList]

namespace Spelling

variable {draft : Draft} {past group rest : List Item} {words : List String} {wish : Wish}

/-- Words are understood as what they were written for. -/
theorem understood (spelling : Spelling group words) (understands : draft.Understands past)
    (expressed : Expresses (past ++ (group ++ rest)) wish) :
    ∃ next, draft.takeAll words = .ok next ∧ next.Understands (past ++ group) := by
  have free := understands.1
  cases spelling with
  | name switch =>
      obtain ⟨next, done, understood⟩ := understands.turnOn expressed.switch_fresh
      refine ⟨next, Draft.takeAll_cons ?_ [], understood⟩
      rw [Draft.take_long free (Word.of_switch switch), Draft.takeLong, Choice.ofName?_name]
      exact done
  | letters switch more =>
      obtain ⟨next, taken, understood⟩ := understands.takeLetters_switches expressed []
      refine ⟨next, Draft.takeAll_cons ?_ [], understood⟩
      rw [List.append_nil] at taken
      rw [Draft.take_letters free _ ⟨_, _, rfl, switch.letter_ne_dash⟩]
      · exact taken
      · simp [Switch.letters]
  | attached setting value =>
      obtain ⟨next, done, understood⟩ :=
        understands.takeSetting expressed.takes expressed.setting_fresh
      refine ⟨next, Draft.takeAll_cons ?_ [], understood⟩
      rw [Draft.take_long free (Word.of_attached setting value), Draft.takeLong,
        Choice.ofName?_name]
      exact done
  | apart setting alone =>
      obtain ⟨open_, next, named, done, understood⟩ :=
        understands.takeSetting_take expressed.takes expressed.setting_fresh alone
      refine ⟨next, ?_, understood⟩
      have first : draft.take setting.word = .ok open_ := by
        rw [Draft.take_long free (Word.of_setting setting), Draft.takeLong, Choice.ofName?_name]
        exact named
      rw [Draft.takeAll_cons first, Draft.takeAll_cons done]
      rfl
  | listenApart switches value =>
      rw [List.append_assoc] at expressed
      have chars : ("-" ++ Switch.letters switches ++ "l").toList =
          '-' :: (switches.map Switch.letter ++ ['l']) := by
        simp [Switch.letters]
      obtain ⟨calm, taken, understood⟩ := understands.take_listen expressed chars
      rw [← List.append_assoc] at expressed ⊢
      obtain ⟨open_, next, named, done, understood'⟩ := understood.takeSetting_take
        expressed.takes expressed.setting_fresh expressed.takes.mayStandAlone
      refine ⟨next, ?_, understood'⟩
      rw [Draft.takeAll_cons (taken.trans named), Draft.takeAll_cons done]
      rfl
  | listenAttached switches value =>
      rw [List.append_assoc] at expressed
      have chars : ("-" ++ Switch.letters switches ++ "l" ++ value).toList =
          '-' :: (switches.map Switch.letter ++ 'l' :: value.toList) := by
        simp [Switch.letters]
      exact understands.take_listen_attached expressed chars Setting.Takes.attachedValue
  | listenEquals switches value =>
      rw [List.append_assoc] at expressed
      have chars : ("-" ++ Switch.letters switches ++ "l=" ++ value).toList =
          '-' :: (switches.map Switch.letter ++ 'l' :: '=' :: value.toList) := by
        simp [Switch.letters]
      exact understands.take_listen_attached expressed chars fun _ => by
        rw [Draft.attachedValue, String.ofList_toList]

end Spelling

theorem Spelled.understood {draft : Draft} {past items : List Item} {words : List String}
    {wish : Wish} (spelled : Spelled items words) (understands : draft.Understands past)
    (expressed : Expresses (past ++ items) wish) :
    ∃ next, draft.takeAll words = .ok next ∧ next.Understands (past ++ items) := by
  induction spelled generalizing draft past with
  | nil => exact ⟨draft, rfl, by rwa [List.append_nil]⟩
  | append spelling spelled ih =>
      obtain ⟨middle, taken, understood⟩ := spelling.understood understands expressed
      rw [← List.append_assoc] at expressed ⊢
      obtain ⟨next, taken', understood'⟩ := ih understood expressed
      refine ⟨next, ?_, understood'⟩
      rw [Draft.takeAll_append, taken]
      exact taken'

/-- However a wish is written, it reads back as what was wished for. -/
theorem read_of_spelled {wish : Wish} {items : List Item} {words : List String}
    (expressed : Expresses items wish) (spelled : Spelled items words) :
    (Arguments.read words).map Configuration.ofArguments = .ok wish.outcome := by
  obtain ⟨draft, taken, -, calm, resolved, reflects⟩ :=
    spelled.understood Draft.reflects_start.understands expressed
  have settled : draft.finish = calm.finish := by
    have still : calm.resolve = .ok calm := by rw [Draft.resolve, reflects.waiting]
    rw [Draft.finish, Draft.finish, resolved, still]
  have read : Arguments.read words = .ok wish.arguments := by
    rw [Arguments.read, taken]
    exact congrArg Draft.misused (settled.trans (reflects.finish expressed))
  rw [read, Except.map, wish.ofArguments_arguments]

/-- A wish whose values look like options. -/
def awkward : Wish where
  switch? := some .verbose
  listen := "tls:h-1.x:0443"
  address := ⟨.tls, "h-1.x", 443⟩
  certfile := some "-"
  keyfile := some "--x=y"
  paths := ["", "--host", "a=b"]
  hosts := []
  origins := ["-", "-l"]
  iceServers := []
  listens := by decide +kernel
  certfile_ne := by decide
  keyfile_ne := by decide

/-- The awkward wish, its settings mixed. -/
def mixed : List Item :=
  [.setting .path "", .setting .keyfile "--x=y", .setting .origin "-", .switch .verbose,
    .setting .listen "tls:h-1.x:0443", .setting .path "--host", .setting .certfile "-",
    .setting .origin "-l", .setting .path "a=b"]

/-- One way to write it. -/
def mixedWords : List String :=
  ["--path=", "--keyfile=--x=y", "--origin", "-", "-dltls:h-1.x:0443", "--path=--host",
    "--certfile", "-", "--origin=-l", "--path", "a=b"]

theorem read_of_spelled_mixed : Expresses mixed awkward ∧ Spelled mixed mixedWords ∧
    (Arguments.read mixedWords).map Configuration.ofArguments = .ok awkward.outcome := by
  have expressed : Expresses mixed awkward := ⟨rfl, fun setting => by cases setting <;> rfl⟩
  have dash : MayStandAlone "-" := .inl rfl
  have plain : MayStandAlone "a=b" := .inr (by decide)
  have spelled : Spelled mixed mixedWords :=
    .append (.attached .path "") <| .append (.attached .keyfile "--x=y") <|
      .append (.apart .origin dash) <| .append (.listenAttached [.verbose] "tls:h-1.x:0443") <|
        .append (.attached .path "--host") <| .append (.apart .certfile dash) <|
          .append (.attached .origin "-l") <| .append (.apart .path plain) .nil
  exact ⟨expressed, spelled, read_of_spelled expressed spelled⟩

end CommandLine

end Rendezvous
