/-
# Reading the command line

Words are taken from left to right. A value that belongs to its option in one
word is looked at there and then. A value in a word of its own waits until the
next option that is known, or the end; a word that is not understood is reported
before it.
-/

import Rendezvous.CommandLine.Option
import Rendezvous.ListenAddress

namespace Rendezvous.CommandLine

/-- Why a command line is not understood. Some errors name the options that were
given before, in the order of their first appearance. -/
inductive UsageError
  | unexpectedArgument (argument : String)
  | valueMissing (setting : Setting)
  | invalidValue (value : String) (error : ConfigError)
  | unexpectedValue (value : String) (choice : Choice) (given : List Choice)
  | repeated (choice : Choice)
  | conflict (first second : Switch) (given : List Choice)
  | listenMissing (given : List Choice)
  deriving DecidableEq, Repr

/-- Why no arguments come of a command line. -/
inductive Interruption
  | asked (question : Question)
  | misused (error : UsageError)
  deriving DecidableEq, Repr

/-- What was said on the command line. -/
structure Arguments where
  verbose : Bool
  quiet : Bool
  listen : ListenAddress
  certfile : Option String
  keyfile : Option String
  paths : List String
  hosts : List String
  origins : List String
  iceServers : List String
  deriving DecidableEq, Repr

/-- What one word is. -/
inductive Word
  /-- Two dashes, after which there are no options. -/
  | escape
  /-- A long name, with the value after an equals sign if there is one. -/
  | long (name : String) (value : Option String)
  /-- Letters after one dash. -/
  | letters (first : Char) (rest : List Char)
  | plain
  deriving DecidableEq, Repr

/-- What a word is. A lone dash is like any other text. -/
def Word.of (word : String) : Word :=
  match word.toList with
  | ['-', '-'] => .escape
  | '-' :: '-' :: rest =>
    let name := rest.takeWhile (· ≠ '=')
    let value :=
      match rest.dropWhile (· ≠ '=') with
      | [] => none
      | _ :: value => some (String.ofList value)
    .long (String.ofList name) value
  | '-' :: first :: rest => .letters first rest
  | _ => .plain

/-- What has been understood so far. -/
structure Draft where
  /-- The options that were given, each once, the latest first. -/
  given : List Choice
  listen : Option ListenAddress
  certfile : Option String
  keyfile : Option String
  paths : List String
  hosts : List String
  origins : List String
  iceServers : List String
  /-- A setting whose value may come, or has come, in a word of its own. -/
  waiting : Option (Setting × Option String)
  /-- Whether two dashes have been passed. -/
  escaped : Bool
  deriving DecidableEq, Repr

namespace Draft

/-- Nothing has been read. -/
def start : Draft := ⟨[], none, none, none, [], [], [], [], none, false⟩

/-- Whether an option was given. -/
def isGiven (draft : Draft) (choice : Choice) : Bool := draft.given.contains choice

/-- The draft after an option was given. -/
def note (draft : Draft) (choice : Choice) : Draft :=
  if draft.isGiven choice then draft else { draft with given := choice :: draft.given }

/-- Whether a setting takes more than one value. -/
def isRepeatable : Setting → Bool
  | .listen | .certfile | .keyfile => false
  | .path | .host | .origin | .iceServer => true

/-- Put the value of a setting in its place. -/
def fill (draft : Draft) (setting : Setting) (value : String) : Except UsageError Draft :=
  match setting with
  | .listen =>
    match ListenAddress.parse value with
    | .ok address => .ok { draft with listen := some address }
    | .error error => .error (.invalidValue value error)
  | .certfile =>
    if value.isEmpty then .error (.valueMissing setting)
    else .ok { draft with certfile := some value }
  | .keyfile =>
    if value.isEmpty then .error (.valueMissing setting)
    else .ok { draft with keyfile := some value }
  | .path => .ok { draft with paths := draft.paths ++ [value] }
  | .host => .ok { draft with hosts := draft.hosts ++ [value] }
  | .origin => .ok { draft with origins := draft.origins ++ [value] }
  | .iceServer => .ok { draft with iceServers := draft.iceServers ++ [value] }

/-- Take the value of a setting: first whether there may be one more, then whether
it is one. -/
def store (draft : Draft) (setting : Setting) (value : String) : Except UsageError Draft :=
  if draft.isGiven (.setting setting) && !isRepeatable setting then
    .error (.repeated (.setting setting))
  else (draft.fill setting value).map fun filled => filled.note (.setting setting)

/-- Look at the value that has been waiting. -/
def resolve (draft : Draft) : Except UsageError Draft :=
  match draft.waiting with
  | none => .ok draft
  | some (setting, none) => .error (.valueMissing setting)
  | some (setting, some value) => { draft with waiting := none }.store setting value

/-- A switch is turned on. -/
def turnOn (draft : Draft) (switch : Switch) : Except UsageError Draft :=
  if draft.isGiven (.switch switch) then .error (.repeated (.switch switch))
  else .ok (draft.note (.switch switch))

/-- A setting is named, and its value is to come. -/
def await (draft : Draft) (setting : Setting) : Draft :=
  { draft with waiting := some (setting, none) }

/-- Turn an error into an interruption. -/
def misused {α : Type} : Except UsageError α → Except Interruption α
  | .ok value => .ok value
  | .error error => .error (.misused error)

/-- The value that follows a letter in the same word. -/
def attachedValue : List Char → Option String
  | [] => none
  | '=' :: value => some (String.ofList value)
  | value => some (String.ofList value)

/-- A setting with the value in the same word, if there is one. -/
def takeSetting (draft : Draft) (setting : Setting) (attached : Option String) :
    Except Interruption Draft := do
  let draft ← misused draft.resolve
  match attached with
  | some value => misused (draft.store setting value)
  | none => return draft.await setting

/-- The letters of one word. -/
def takeLetters (draft : Draft) : List Char → Except Interruption Draft
  | [] => .ok draft
  | letter :: rest =>
    match Choice.ofLetter? letter with
    | none => .error (.misused (.unexpectedArgument (String.ofList ['-', letter])))
    | some (.switch switch) => do
      let draft ← misused draft.resolve
      takeLetters (← misused (draft.turnOn switch)) rest
    | some (.question question) => do
      let _ ← misused draft.resolve
      .error (.asked question)
    | some (.setting setting) => draft.takeSetting setting (attachedValue rest)

/-- A long name, with the value after an equals sign if there is one. -/
def takeLong (draft : Draft) (name : String) (value : Option String) :
    Except Interruption Draft :=
  match Choice.ofName? name with
  | none => .error (.misused (.unexpectedArgument ("--" ++ name)))
  | some (.setting setting) => draft.takeSetting setting value
  | some choice =>
    match value with
    | some value => .error (.misused (.unexpectedValue value choice draft.given.reverse))
    | none => do
      let draft ← misused draft.resolve
      match choice with
      | .switch switch => misused (draft.turnOn switch)
      | .question question => .error (.asked question)
      | .setting _ => return draft

/-- One word. -/
def take (draft : Draft) (word : String) : Except Interruption Draft :=
  let unexpected : Except Interruption Draft := .error (.misused (.unexpectedArgument word))
  if draft.escaped then unexpected
  else
    match Word.of word with
    | .escape => .ok { draft with escaped := true }
    | .long name value => draft.takeLong name value
    | .letters first rest => draft.takeLetters (first :: rest)
    | .plain =>
      match draft.waiting with
      | some (setting, none) => .ok { draft with waiting := some (setting, some word) }
      | _ => unexpected

/-- The two switches that exclude each other, in the order in which they were
given. -/
def conflict? (draft : Draft) : Option (Switch × Switch) :=
  match draft.given.reverse.filter fun choice =>
      choice = .switch .verbose || choice = .switch .quiet with
  | [.switch first, .switch second] => some (first, second)
  | _ => none

/-- The end of the command line. -/
def finish (draft : Draft) : Except UsageError Arguments := do
  let draft ← draft.resolve
  let given := draft.given.reverse
  match draft.conflict? with
  | some (first, second) => .error (.conflict first second given)
  | none =>
    match draft.listen with
    | none => .error (.listenMissing given)
    | some listen =>
      return {
        verbose := draft.isGiven (.switch .verbose)
        quiet := draft.isGiven (.switch .quiet)
        listen := listen
        certfile := draft.certfile
        keyfile := draft.keyfile
        paths := draft.paths
        hosts := draft.hosts
        origins := draft.origins
        iceServers := draft.iceServers }

/-- All words. -/
def takeAll (draft : Draft) : List String → Except Interruption Draft
  | [] => .ok draft
  | word :: rest => do takeAll (← draft.take word) rest

end Draft

/-- Reads the words of a command line. -/
def Arguments.read (words : List String) : Except Interruption Arguments := do
  let draft ← Draft.start.takeAll words
  Draft.misused draft.finish

end Rendezvous.CommandLine
