/-
# The options of the command line

Each option is a switch, a setting with one value, or a question that is answered
instead of running. The table here is all there is to know about an option: what
it is called and how it is explained.
-/

namespace Rendezvous.CommandLine

/-- Options without a value. -/
inductive Switch
  | verbose
  | quiet
  deriving DecidableEq, Repr

/-- Options with one value. -/
inductive Setting
  | listen
  | certfile
  | keyfile
  | path
  | host
  | origin
  | iceServer
  deriving DecidableEq, Repr

/-- Options that are answered at once. -/
inductive Question
  | help
  | version
  deriving DecidableEq, Repr

/-- An option of the command line. -/
inductive Choice
  | switch (switch : Switch)
  | setting (setting : Setting)
  | question (question : Question)
  deriving DecidableEq, Repr

namespace Choice

/-- Every option, in the order in which they are explained. -/
def all : List Choice :=
  [.switch .verbose, .switch .quiet, .setting .listen, .setting .certfile,
    .setting .keyfile, .setting .path, .setting .host, .setting .origin,
    .setting .iceServer, .question .help, .question .version]

/-- The long name. -/
def name : Choice → String
  | .switch .verbose => "verbose"
  | .switch .quiet => "quiet"
  | .setting .listen => "listen"
  | .setting .certfile => "certfile"
  | .setting .keyfile => "keyfile"
  | .setting .path => "path"
  | .setting .host => "host"
  | .setting .origin => "origin"
  | .setting .iceServer => "ice-server"
  | .question .help => "help"
  | .question .version => "version"

/-- The letter, for options that have one. -/
def letter? : Choice → Option Char
  | .switch .verbose => some 'd'
  | .switch .quiet => some 'q'
  | .setting .listen => some 'l'
  | .question .help => some 'h'
  | .question .version => some 'V'
  | .setting _ => none

/-- The option with a long name. -/
def ofName? (name : String) : Option Choice :=
  all.find? fun choice => choice.name = name

/-- The option with a letter. -/
def ofLetter? (letter : Char) : Option Choice :=
  all.find? fun choice => choice.letter? = some letter

end Choice

/-- What the value of a setting is. -/
def Setting.valueName : Setting → String
  | .listen => "TYPE:HOST:PORT"
  | .certfile | .keyfile => "FILE"
  | .path => "PATH"
  | .host => "HOST[:PORT]"
  | .origin | .iceServer => "URL"

/-- The option as it is named in messages: with its dashes and what its value is. -/
def Choice.display (choice : Choice) : String :=
  match choice with
  | .setting valued => "--" ++ choice.name ++ " <" ++ valued.valueName ++ ">"
  | .switch _ | .question _ => "--" ++ choice.name

end Rendezvous.CommandLine
