import RefreshRate.Timer.Host

namespace RefreshRate.Timer

/-!
# Scripted timers

Works are described by data: a script lists the operations that a work performs
on the timer table when it runs.  A bench holds a table of such works and a
clock, and records what fires.
-/

/-- One operation on the timer table; a work is given by its name and its script. -/
inductive Action where
  | create (name : String)
  | isArmed (handle : Nat)
  | set (handle : Nat) (deadline : Int) (work : String) (script : List Action)
  | clear (handle : Nat)
  | schedule (handle : Nat) (delay : Nat) (work : String) (script : List Action)
  | trySet (handle : Nat) (deadline : Int) (work : String) (script : List Action)
  | tryClear (handle : Nat)
  | panic (message : String)
  deriving Repr

/-- A work with the operations that it performs. -/
structure Work where
  name : String
  script : List Action
  deriving Repr

/-- What an operation answers. -/
inductive Reply where
  | done
  | handle (index : Nat)
  | armed (answer : Bool)
  | accepted
  | refused (reason : HandleError)
  | panicked (message : String)
  deriving Repr, DecidableEq

/-- What happens on a bench. -/
inductive Event where
  /-- The alarm of a slot was replaced. -/
  | replaced (time handle : Nat) (alarm? : Option (Alarm Work))
  /-- A work was begun. -/
  | fired (time : Nat) (firing : Firing Work)
  /-- The work of a slot panicked. -/
  | panicked (slotName : String)
  deriving Repr

namespace Event

/-- The time and the name of a work that fired. -/
def fired? : Event → Option (Nat × String)
  | .fired time firing => some (time, firing.alarm.work.name)
  | _ => none

/-- The slot of which the work panicked. -/
def panickedSlot? : Event → Option String
  | .panicked slotName => some slotName
  | _ => none

end Event

/-- A table of scripted works, its clock, and the record of what has happened. -/
structure Bench where
  now : Nat := 0
  isStopped : Bool := false
  table : Table Work := {}
  /-- All events, the oldest first. -/
  history : List Event := []
  deriving Repr

namespace Bench

/-- The time and the name of every work that has fired. -/
def fired (bench : Bench) : List (Nat × String) :=
  bench.history.filterMap Event.fired?

/-- The slots of which the works have panicked. -/
def panickedSlots (bench : Bench) : List String :=
  bench.history.filterMap Event.panickedSlot?

/-- Record an event. -/
def record
    (bench : Bench)
    (event : Event) :
    Bench :=
  { bench with history := bench.history ++ [event] }

/-- Replace an alarm; an unknown handle is answered by `onError`. -/
def put
    (bench : Bench)
    (handle : Nat)
    (alarm? : Option (Alarm Work))
    (onSuccess : Reply)
    (onError : HandleError → Reply) :
    Reply × Bench :=
  match bench.table.put handle alarm? with
  | .ok table =>
      (onSuccess, { bench with table }.record (.replaced bench.now handle alarm?))
  | .error reason =>
      (onError reason, bench)

/-- The answer to an unknown handle of an operation that must not fail. -/
def panicReply (reason : HandleError) : Reply :=
  .panicked reason.message

/-- Perform one operation. -/
def perform (bench : Bench) : Action → Reply × Bench
  | .create name =>
      let (handle, table) := bench.table.create name
      (.handle handle, { bench with table })
  | .isArmed handle =>
      (.armed (bench.table.isArmed handle), bench)
  | .set handle deadline work script =>
      bench.put handle (some ⟨deadline, work, script⟩) .done panicReply
  | .clear handle =>
      bench.put handle none .done panicReply
  | .schedule handle delay work script =>
      bench.put handle (some ⟨(bench.now + delay : Nat), work, script⟩) .done panicReply
  | .trySet handle deadline work script =>
      bench.put handle (some ⟨deadline, work, script⟩) .accepted .refused
  | .tryClear handle =>
      bench.put handle none .accepted .refused
  | .panic message =>
      (.panicked message, bench)

/-- Perform operations until one of them panics; tell whether one did. -/
def performAll
    (bench : Bench) :
    List Action → Bool × Bench
  | [] =>
      (false, bench)
  | action :: rest =>
      match bench.perform action with
      | (.panicked _, bench) =>
          (true, bench)
      | (_, bench) =>
          bench.performAll rest

/-- Do a work: record it and perform its script.  A panic ends the script and is recorded. -/
def run
    (now : Nat)
    (firing : Firing Work)
    (bench : Bench) :
    Bench :=
  let begun := { bench with now }.record (.fired now firing)
  let (hasPanicked, done) := begun.performAll firing.alarm.work.script
  if hasPanicked then done.record (.panicked firing.slotName) else done

/-- The bench as a host of its table. -/
def host : Host Bench Work where
  table := Bench.table
  withTable bench table := { bench with table }
  run := run

/-- Let time pass.  After the stop only the clock moves. -/
def advance
    (bench : Bench)
    (milliseconds : Nat) :
    Bench :=
  let target := bench.now + milliseconds
  if bench.isStopped then
    { bench with now := target }
  else
    { host.advance target bench.now bench with now := target }

/-- Stop the delivery of alarms for good. -/
def stop (bench : Bench) : Bench :=
  { bench with isStopped := true }

end Bench

end RefreshRate.Timer
