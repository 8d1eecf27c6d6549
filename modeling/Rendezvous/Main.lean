/-
# The program

The program hands the command line, the files it names and what can be listened
at to the run that `RunReport` describes, and writes what that leaves. Sockets and
TLS are not part of this library; without them no address can be taken and no key
is known, which a run reports in the same way as any other refusal of the system.
-/

import Rendezvous.Startup

namespace Rendezvous.Program

/-- The words of the system for a file that cannot be read. -/
def fileFault : IO.Error → FileFault
  | .noFileOrDirectory _ _ _ => .missing
  | .permissionDenied _ _ _ => .unreadable "Permission denied (os error 13)"
  | error => .unreadable (toString error)

/-- Reads one file. -/
def readFile (path : String) : IO (Except FileFault Octets) := do
  match ← (IO.FS.readBinFile path).toBaseIO with
  | .ok content => return .ok content.data.toList
  | .error error => return .error (fileFault error)

/-- The paths that a command line names. -/
def namedPaths (words : List String) : List String :=
  match CommandLine.Arguments.read words with
  | .ok arguments => arguments.certfile.toList ++ arguments.keyfile.toList
  | .error _ => []

/-- The system as far as a command line can see it. -/
def host (words : List String) : IO Host := do
  let contents ← (namedPaths words).mapM fun path => do
    return (path, ← readFile path)
  return {
    files := fun path => (contents.lookup path).getD (.error .missing)
    tlsLibrary := ⟨fun _ => false, fun _ => false⟩
    bind := fun _ => .error "Operation not supported (os error 95)" }

/-- Write what a run leaves. -/
def write (report : RunReport) : IO UInt32 := do
  report.output.forM IO.println
  IO.eprint report.errors
  return report.code.toUInt32

end Rendezvous.Program

/-- Runs the program on the words of its command line. -/
def main (words : List String) : IO UInt32 := do
  Rendezvous.Program.write (Rendezvous.RunReport.ofWords (← Rendezvous.Program.host words) words)
