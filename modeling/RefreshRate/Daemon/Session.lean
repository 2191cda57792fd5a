import RefreshRate.Android.Actuator
import RefreshRate.Config.File
import RefreshRate.Controller.World
import RefreshRate.Daemon.CommandLine
import RefreshRate.Signal.Feed

namespace RefreshRate.Daemon

/-!
# A session of the daemon

The daemon opens its log, loads the configuration, puts the controller on the
bus, and works until it is asked to stop.  What it does up to then follows from
its options and from what it reads.
-/

/-- A failure that ends the daemon: what could not be done, and why. -/
structure Failure where
  context : String
  causes : List String
  deriving Repr, DecidableEq

namespace Failure

/-- A text of which all lines but the first are indented. -/
def hanging
    (indentation : String)
    (text : String) :
    String :=
  ("\n" ++ indentation).intercalate ((text.toList.splitOn '\n').map String.ofList)

/-- The causes, each on a line of its own and numbered from a given number. -/
def numbered
    (number : Nat) :
    List String → String
  | [] =>
      ""
  | cause :: rest =>
      "    " ++ Text.Decimal.text number ++ ": " ++ hanging "       " cause ++ "\n" ++
        numbered (number + 1) rest

/-- The causes; a single one is not numbered. -/
def causesText : List String → String
  | [cause] =>
      "    " ++ hanging "    " cause ++ "\n"
  | causes =>
      numbered 0 causes

/-- The failure as it is shown. -/
def text (failure : Failure) : String :=
  "Error: " ++ failure.context ++ "\n\nCaused by:\n" ++ causesText failure.causes

/-- The log file cannot be opened. -/
def ofLogFile
    (path : String)
    (reason : FileError) :
    Failure where
  context := "cannot open log file '" ++ path ++ "'"
  causes := [reason.message]

/-- The chain of causes of an unusable configuration, the outermost first. -/
def configCauses : ConfigError → List String
  | .unreadable path cause =>
      [(ConfigError.unreadable path cause).message, cause]
  | reason =>
      [reason.message]

/-- There is no usable configuration. -/
def ofConfig (reason : ConfigError) : Failure where
  context := "failed to load config"
  causes := configCauses reason

end Failure

/-- What the daemon tells about its life in the log. -/
inductive Milestone where
  | starting
  | started
  | inputClosed
  | stopRequested
  | stopped
  deriving Repr, DecidableEq

namespace Milestone

/-- The message of a milestone. -/
def message : Milestone → String
  | .starting => "dfps starting"
  | .started => "rate controller started"
  | .inputClosed => "stdin closed"
  | .stopRequested => "shutdown requested"
  | .stopped => "dfps stopped"

/-- The line of a milestone in the log, without the time and the origin that stand before it. -/
def line (milestone : Milestone) : String :=
  "INFO " ++ milestone.message ++ "\n"

end Milestone

/-- What the daemon finds when it opens its files and reads its input. -/
structure Surroundings where
  /-- Whether the log file can be opened. -/
  logFile : Except FileError Unit
  /-- The text of the configuration file. -/
  config : Except FileError String
  /-- The bytes of standard input. -/
  input : List UInt8

/-- What a session has done. -/
structure Report where
  exitCode : Nat
  /-- The text on standard output; none where the text is not settled here. -/
  output? : Option String := some ""
  failure? : Option Failure := none
  /-- The file to which the log is written, if not to standard error. -/
  logPath? : Option String := none
  milestones : List Milestone := []
  /-- The values applied to the display, in order. -/
  applied : List String := []
  deriving Repr, DecidableEq

namespace Report

/-- The text by which the daemon names its version. -/
def versionText : String :=
  "dfps 0.1.0\n"

/-- The report about a command line that is refused. -/
def usage : Report where
  exitCode := 2
  output? := none

/-- The report about a request for help. -/
def help : Report where
  exitCode := 0
  output? := none

/-- The report about a request for the version. -/
def version : Report where
  exitCode := 0
  output? := some versionText

/-- The report about a session that fails. -/
def failed
    (options : Options)
    (milestones : List Milestone)
    (failure : Failure) :
    Report where
  exitCode := 1
  failure? := some failure
  logPath? := options.logPath?
  milestones := milestones

/-- The text on standard error, where the log is not written there too. -/
def errorText? (report : Report) : Option String :=
  if report.logPath?.isSome then report.failure?.map Failure.text else none

end Report

/-- The value of an event that reaches the display. -/
def appliedValue? : Controller.Event → Option String
  | .applied _ _ value _ => some (Text.Decimal.text value)
  | .switched .. => none

/-- The controller after the signals of a feed. -/
def playFeed
    (config : Config)
    (feed : Feed) :
    Controller.World :=
  feed.signals.foldl
    (fun world signal => world.send .bus signal)
    (Controller.World.create config).start

/-- The feed of standard input, if it is read. -/
def inputFeed
    (options : Options)
    (input : List UInt8) :
    Feed :=
  if options.readsInput then Feed.ofBytes input else ⟨[], none⟩

/-- The milestones of a session that works until it is asked to stop. -/
def milestones
    (options : Options)
    (feed : Feed) :
    List Milestone :=
  [.starting, .started] ++
    (if options.readsInput && feed.fault?.isNone then [.inputClosed] else []) ++
    [.stopRequested, .stopped]

/-- The session of a daemon that is asked to stop once its input has been read. -/
def session
    (options : Options)
    (surroundings : Surroundings) :
    Report :=
  match surroundings.logFile with
  | .error reason =>
      .failed options [] (.ofLogFile (options.logPath?.getD "") reason)
  | .ok () =>
      match (Config.ofFile options.configPath surroundings.config).outcome with
      | .error reason =>
          .failed options [.starting] (.ofConfig reason)
      | .ok config =>
          let feed := inputFeed options surroundings.input
          { exitCode := 0
            logPath? := options.logPath?
            milestones := milestones options feed
            applied := (playFeed config feed).history.filterMap appliedValue? }

end RefreshRate.Daemon
