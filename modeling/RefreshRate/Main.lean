import RefreshRate.Daemon.Session

namespace RefreshRate.Main

/-!
# The program

The outer layer of the daemon: it opens files, reads standard input, and writes
what the session reports.  The session ends with its input.
-/

/-- The reason for which the system refused a file. -/
def fileError : IO.Error → FileError
  | .noFileOrDirectory .. => .notFound
  | error => .other (toString error)

/-- The outcome of an action on a file. -/
def attempt
    {α : Type}
    (action : IO α) :
    IO (Except FileError α) := do
  try
    return .ok (← action)
  catch error =>
    return .error (fileError error)

/-- Open a file for more lines at its end; without a path, lines go to standard error. -/
def openLog (path? : Option String) : IO (Except FileError IO.FS.Stream) :=
  match path? with
  | none =>
      return .ok (← IO.getStderr)
  | some path =>
      attempt (return .ofHandle (← IO.FS.Handle.mk path .append))

/-- Read the text of a file. -/
def readText (path : String) : IO (Except FileError String) := do
  match ← attempt (IO.FS.readBinFile path) with
  | .ok bytes =>
      return (FileNode.regular bytes.toList).readText
  | .error reason =>
      return .error reason

/-- Run a session and write what it reports. -/
def runSession (options : Daemon.Options) : IO UInt32 := do
  let log ← openLog options.logPath?
  if let .ok stream := log then
    stream.putStrLn Daemon.Milestone.starting.message
    stream.flush
  let config ← readText options.configPath
  let input ←
    if options.readsInput then
      (← IO.getStdin).readBinToEnd
    else
      pure .empty
  let report :=
    Daemon.session options
      { logFile := log.map fun _ => ()
        config := config
        input := input.toList }
  if let .ok stream := log then
    for milestone in report.milestones.drop 1 do
      stream.putStrLn milestone.message
  if let some path := options.notifyPath? then
    for value in report.applied do
      if let .error reason ← attempt (IO.FS.writeFile path value) then
        IO.eprintln reason.message
  if let some failure := report.failure? then
    IO.eprint failure.text
  return report.exitCode.toUInt32

/-- The lines that explain the command line. -/
def usageText : String :=
  "usage: [-o FILE] [-n FILE] [--stdin] CONFIG"

/-- Run the daemon. -/
def run (arguments : List String) : IO UInt32 :=
  match Daemon.Invocation.ofArguments arguments with
  | .error _ => do
      IO.eprintln usageText
      return 2
  | .ok .help => do
      IO.println usageText
      return 0
  | .ok .version => do
      IO.print Daemon.Report.versionText
      return 0
  | .ok (.run options) =>
      runSession options

end RefreshRate.Main

def main (arguments : List String) : IO UInt32 :=
  RefreshRate.Main.run arguments
