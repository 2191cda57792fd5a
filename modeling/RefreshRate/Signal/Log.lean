import RefreshRate.Log
import RefreshRate.Signal.Basic
import RefreshRate.Text.Decimal

namespace RefreshRate

/-!
# Logging signals

A signal log is a subscriber that counts the signals delivered to it and writes
a record for each of them.
-/

/-- The word for a truth value. -/
def flagText (flag : Bool) : String :=
  if flag then "true" else "false"

/-- A signal in one line of the log. -/
def Signal.description : Signal → String
  | .touch pressed =>
      "[touch] pressed=" ++ flagText pressed
  | .button pressed =>
      "[btn] pressed=" ++ flagText pressed
  | .inputState state =>
      "[scene] hold=" ++ flagText state.inHold ++
        " swipe=" ++ flagText state.inSwipe ++
        " gesture=" ++ flagText state.inGesture
  | .topApp package =>
      "[topapp] pkg=" ++ Text.Quoted.text package
  | .offscreen isOff =>
      "[offscreen] off=" ++ flagText isOff
  | .cgroup group tasks =>
      "[cgroup] group=" ++ Text.Quoted.text group ++
        " tasks=" ++ Text.Decimal.text tasks.length

/-- The signals that have been delivered to a log. -/
structure SignalLog where
  signals : List Signal := []
  deriving Repr, DecidableEq

namespace SignalLog

/-- The name of the subscriber. -/
def name : String :=
  "SignalLog"

/-- Receive a signal. -/
def receive
    (log : SignalLog)
    (signal : Signal) :
    SignalLog where
  signals := log.signals ++ [signal]

/-- How many signals have been delivered. -/
def seen (log : SignalLog) : Nat :=
  log.signals.length

/-- The records of all signals. -/
def records (log : SignalLog) : List LogRecord :=
  log.signals.map fun signal => { level := .debug, message := signal.description }

end SignalLog

end RefreshRate
