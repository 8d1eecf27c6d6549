/-
# What the command line says about itself

The help text is laid out from the table of options, and so is the line that says
how the program is called. After some errors that line is the general one, after
others it names the options that were given; a missing value is reported without
it.
-/

import Rendezvous.CommandLine.Arguments
import Rendezvous.Outgoing

namespace Rendezvous.CommandLine

/-- What the program is called. -/
def programName : String := "callrelay"

/-- What `--version` answers. -/
def versionText : String := programName ++ " 0.1.0\n"

/-- What the program does. -/
def purpose : String :=
  "WebSocket signaling relay for two-party WebRTC calls on /call/\x7bid\x7d"

/-- The explanation of an option. -/
def Choice.explanation : Choice → String
  | .switch .verbose => "Enable debug level logging instead of default info"
  | .switch .quiet => "Only log errors"
  | .setting .listen => "Listening address, e.g. tcp:0.0.0.0:8080 or tls:0.0.0.0:443"
  | .setting .certfile => "Certificate chain in PEM format, for a TLS listener"
  | .setting .keyfile => "Private key in PEM format, for a TLS listener"
  | .setting .path => "Allowed request path prefix; 404 otherwise (repeatable)"
  | .setting .host => "Allowed Host header value; 403 otherwise (repeatable)"
  | .setting .origin => "Allowed Origin header value; 403 otherwise (repeatable)"
  | .setting .iceServer =>
    "ICE server URL handed to clients (repeatable) [default: " ++ defaultIceServer ++ "]"
  | .question .help => "Print help"
  | .question .version => "Print version"

/-- The option with its letter, or with the room for one. -/
def Choice.heading (choice : Choice) : String :=
  let letter :=
    match choice.letter? with
    | some letter => String.ofList ['-', letter, ',', ' ']
    | none => "    "
  "  " ++ letter ++ choice.display

/-- How wide the column of the options is: as wide as the widest of them and two
spaces more. -/
def headingWidth : Nat :=
  (Choice.all.map fun choice => choice.heading.length).foldl max 0 + 2

/-- The line that explains an option. -/
def Choice.helpLine (choice : Choice) : String :=
  let room := headingWidth - choice.heading.length
  choice.heading ++ String.ofList (List.replicate room ' ') ++ choice.explanation ++ "\n"

/-- How the program is called in general. -/
def generalUsage : String :=
  "Usage: " ++ programName ++ " [OPTIONS] " ++ (Choice.setting .listen).display

/-- How the program is called with some options: the required one and then those. -/
def usageWith (given : List Choice) : String :=
  let others := given.filter fun choice => choice ≠ .setting .listen
  "Usage: " ++ String.intercalate " "
    (programName :: (Choice.setting .listen :: others).map Choice.display)

/-- What `--help` answers. -/
def helpText : String :=
  purpose ++ "\n\n" ++ generalUsage ++ "\n\nOptions:\n" ++
    String.join (Choice.all.map Choice.helpLine)

namespace UsageError

/-- The wording of an error. -/
def message : UsageError → String
  | .unexpectedArgument argument => "unexpected argument '" ++ argument ++ "' found"
  | .valueMissing setting =>
    "a value is required for '" ++ (Choice.setting setting).display ++
      "' but none was supplied"
  | .invalidValue value error =>
    "invalid value '" ++ value ++ "' for '" ++ (Choice.setting .listen).display ++ "': " ++
      error.message
  | .unexpectedValue value choice _ =>
    "unexpected value '" ++ value ++ "' for '" ++ choice.display ++
      "' found; no more were expected"
  | .repeated choice =>
    "the argument '" ++ choice.display ++ "' cannot be used multiple times"
  | .conflict first second _ =>
    "the argument '" ++ (Choice.switch first).display ++ "' cannot be used with '" ++
      (Choice.switch second).display ++ "'"
  | .listenMissing _ =>
    "the following required arguments were not provided:\n  " ++
      (Choice.setting .listen).display

/-- How the program should have been called, where an error says so. -/
def usage? : UsageError → Option String
  | .unexpectedArgument _ | .repeated _ => some generalUsage
  | .valueMissing _ | .invalidValue _ _ => none
  | .unexpectedValue _ choice given =>
    some (usageWith (if given.contains choice then given else given ++ [choice]))
  | .conflict _ second given =>
    some (usageWith (given.filter fun choice => choice ≠ .switch second))
  | .listenMissing given => some (usageWith given)

/-- All that is written for an error. -/
def report (error : UsageError) : String :=
  let usage := (error.usage?.map fun line => line ++ "\n\n").getD ""
  "error: " ++ error.message ++ "\n\n" ++ usage ++ "For more information, try '--help'.\n"

end UsageError

end Rendezvous.CommandLine
