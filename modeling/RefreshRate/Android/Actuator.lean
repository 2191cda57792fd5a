import RefreshRate.Android.Command
import RefreshRate.Log

namespace RefreshRate.Android

/-!
# The actuator

The actuator writes each applied value to a notify file, if there is one, and
then issues the commands for it.  Whether a command succeeds is only logged: the
commands that follow are issued in any case.
-/

/-- How a command ends. -/
inductive Outcome where
  | succeeded
  | failed
  /-- The tool could not be started. -/
  | notStarted
  deriving Repr, DecidableEq

/-- The file to which applied values are written. -/
inductive NotifyFile where
  | none
  | writable (content? : Option String)
  | unwritable
  deriving Repr, DecidableEq

namespace NotifyFile

/-- Replace the content of the file. -/
def write
    (value : String) :
    NotifyFile → NotifyFile
  | .none => .none
  | .writable _ => .writable (some value)
  | .unwritable => .unwritable

/-- The content of the file. -/
def content? : NotifyFile → Option String
  | .writable content? => content?
  | _ => .none

end NotifyFile

/-- The notify file and the number of commands that have been issued. -/
structure Actuator where
  notifyFile : NotifyFile := .none
  issued : Nat := 0
  deriving Repr, DecidableEq

/-- A command that was issued and how it ended. -/
structure Attempt where
  command : Command
  outcome : Outcome
  deriving Repr, DecidableEq

namespace Attempt

/-- The record about an attempt. -/
def record (attempt : Attempt) : LogRecord :=
  match attempt.outcome with
  | .succeeded => { level := .debug, message := "exec ok" }
  | .failed => { level := .warning, message := "exec failed" }
  | .notStarted => { level := .error, message := "cannot exec" }

end Attempt

/-- What happens when a value is applied. -/
structure Application where
  notifyFailed : Bool
  attempts : List Attempt
  deriving Repr, DecidableEq

namespace Application

/-- The records about an application. -/
def records (application : Application) : List LogRecord :=
  (if application.notifyFailed then
    [{ level := .warning, message := "cannot write notify file" }]
  else
    []) ++ application.attempts.map Attempt.record

/-- The commands that were started. -/
def started (application : Application) : List Command :=
  (application.attempts.filter fun attempt => attempt.outcome != .notStarted).map
    Attempt.command

end Application

/-- Issue commands, of which the first has a given number. -/
def issueAll
    (outcome : Nat → Command → Outcome)
    (number : Nat) :
    List Command → List Attempt
  | [] =>
      []
  | command :: rest =>
      ⟨command, if command.isStartable then outcome number command else .notStarted⟩ ::
        issueAll outcome (number + 1) rest

namespace Actuator

/-- The name of the actuator. -/
def name : String :=
  "android"

/-- Apply a value; `outcome` tells how the tools end the command of each number. -/
def apply
    (actuator : Actuator)
    (outcome : Nat → Command → Outcome)
    (mode : SwitchMode)
    (value : String)
    (forced : Bool) :
    Application × Actuator :=
  let commands := Command.applying mode value forced
  (⟨actuator.notifyFile == .unwritable, issueAll outcome actuator.issued commands⟩,
    { notifyFile := actuator.notifyFile.write value
      issued := actuator.issued + commands.length })

end Actuator

end RefreshRate.Android
