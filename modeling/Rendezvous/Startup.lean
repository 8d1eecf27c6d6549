/-
# Starting the relay

A run of the program either ends before it serves anybody, for one of the reasons
checked here in order, or serves until it is interrupted. What it writes is
determined by the command line and by what the system around it offers.
-/

import Rendezvous.CommandLine.Usage
import Rendezvous.Identity

namespace Rendezvous

/-- What the system around the program offers. -/
structure Host where
  files : FileSystem
  tlsLibrary : TlsLibrary
  /-- Listening at an address: the address that is then listened at, or the reason
  why it cannot be. -/
  bind : ListenAddress → Except String String

/-- What a run of the program leaves: its exit code and what it wrote. -/
structure RunReport where
  code : Nat
  output : List String
  errors : String
  deriving DecidableEq, Repr

namespace RunReport

/-- The part of the program that a line of the log comes from. -/
inductive Source
  | program
  | server
  deriving DecidableEq, Repr

/-- The part as the log names it. -/
def Source.display : Source → String
  | .program => "callrelay"
  | .server => "callrelay::signaling::server"

/-- Whether a line of some level is written at a setting. -/
def isLogged (setting level : Level) : Bool :=
  match setting, level with
  | .debug, _ => true
  | .info, .debug => false
  | .info, _ => true
  | .warn, .debug | .warn, .info => false
  | .warn, _ => true
  | .error, .error => true
  | .error, _ => false

/-- A line of the log, if it is written. -/
def logLine (setting level : Level) (source : Source) (text : String) : List String :=
  if isLogged setting level then [level.display ++ " " ++ source.display ++ ": " ++ text]
  else []

/-- The lines that a text consists of, without the characters that end them. `line`
holds the characters of the line that is open, the latest first. -/
def lines (line : List Char) : List Char → List String
  | [] => if line.isEmpty then [] else [String.ofList line.reverse]
  | char :: rest =>
    if char = '\n' then String.ofList line.reverse :: lines [] rest
    else lines (char :: line) rest

/-- A run that ends with an answer to a question. -/
def ofQuestion : CommandLine.Question → RunReport
  | .help => ⟨0, lines [] CommandLine.helpText.toList, ""⟩
  | .version => ⟨0, lines [] CommandLine.versionText.toList, ""⟩

/-- A run that ends with an error in the log. -/
def failed (setting : Level) (text : String) : RunReport :=
  ⟨1, logLine setting .error .program text, ""⟩

/-- The identity that a configuration asks for. -/
def identity (host : Host) (configuration : Configuration) :
    Except ConfigError (Option Identity) :=
  match configuration.tls with
  | none => .ok none
  | some files => (Identity.load host.tlsLibrary host.files files).map some

/-- A run with a configuration: the address is taken first, then the files are
read; from then on the relay serves until it is interrupted. -/
def ofConfiguration (host : Host) (configuration : Configuration) : RunReport :=
  let setting := configuration.logLevel
  match host.bind configuration.listen with
  | .error reason =>
    failed setting ("Failed to bind " ++ configuration.listen.display ++ ": " ++ reason)
  | .ok address =>
    match identity host configuration with
    | .error error => failed setting error.message
    | .ok identity =>
      let scheme := if identity.isSome then "wss" else "ws"
      ⟨0, logLine setting .info .program ("Binding to " ++ configuration.listen.display) ++
          logLine setting .info .server
            ("Signaling server listening on " ++ scheme ++ "://" ++ address) ++
          logLine setting .info .program "Interrupted, exiting", ""⟩

/-- A run of the program. -/
def ofWords (host : Host) (words : List String) : RunReport :=
  match CommandLine.Arguments.read words with
  | .error (.asked question) => ofQuestion question
  | .error (.misused error) => ⟨2, [], error.report⟩
  | .ok arguments =>
    match Configuration.ofArguments arguments with
    | .error error => ⟨1, [], "Error: " ++ error.message ++ "\n"⟩
    | .ok configuration => ofConfiguration host configuration

end RunReport

end Rendezvous
