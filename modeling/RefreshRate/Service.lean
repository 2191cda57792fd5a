import RefreshRate.Executor.Bench
import RefreshRate.Text.Elapsed
import RefreshRate.Text.Quoted
import RefreshRate.Timer.Host

namespace RefreshRate

/-!
# The service

The service runs timers and an executor side by side and stops both in an
orderly way: the timers are cancelled and their task is awaited, then the executor
is told to stop and its worker is awaited, and a component that does not come to
rest within the grace is named in the error.  No timer fires after the stop, and
whatever is queued on the executor is still done.
-/

/-- Why the service cannot run or does not stop. -/
inductive ServiceError where
  | workerSpawn (worker cause : String)
  | graceExceeded (grace : Nat) (stuck : List String)
  | signals (cause : String)
  deriving Repr, DecidableEq

namespace ServiceError

/-- The short name of the kind of error. -/
def label : ServiceError → String
  | .workerSpawn .. => "runtime_worker_spawn"
  | .graceExceeded .. => "runtime_grace_exceeded"
  | .signals .. => "runtime_signal"

/-- The error as a sentence. -/
def message : ServiceError → String
  | .workerSpawn worker cause =>
      "failed to spawn worker thread '" ++ worker ++ "': " ++ cause
  | .graceExceeded grace stuck =>
      "shutdown timeout " ++ Text.Elapsed.text grace ++ " exceeded; stuck: " ++
        Text.Quoted.list stuck
  | .signals cause =>
      "cannot listen for shutdown signals: " ++ cause

end ServiceError

/-- The work of a timer: to be recorded, and to perform operations on the executor. -/
structure ServiceTimer where
  name : String
  script : List Executor.Action := []
  deriving Repr

/-- Timers and an executor that are started and stopped together. -/
structure Service where
  /-- How long a stop may take, in milliseconds. -/
  grace : Nat := 5000
  workerName : String := "HeavyWorker"
  /-- Whether the timers were cancelled. -/
  isCancelled : Bool := false
  /-- Whether the task of the timers has noticed that and ended. -/
  timersEnded : Bool := false
  now : Nat := 0
  timers : Timer.Table ServiceTimer := {}
  /-- The time and the name of every timer work that has fired. -/
  fired : List (Nat × String) := []
  heavy : Executor.Bench := {}
  deriving Repr

namespace Service

/-- Add a timer slot and arm it to go off after a delay. -/
def schedule
    (service : Service)
    (delay : Nat)
    (timer : ServiceTimer) :
    Service :=
  let (handle, table) := service.timers.create timer.name
  { service with
    timers := table.replace handle (some ⟨(service.now + delay : Nat), timer⟩) }

/-- Do the work of a timer. -/
def fire
    (now : Nat)
    (firing : Timer.Firing ServiceTimer)
    (service : Service) :
    Service :=
  let timer := firing.alarm.work
  { service with
    now
    fired := service.fired ++ [(now, timer.name)]
    heavy := (service.heavy.performAll timer.script).2 }

/-- The service as the host of its timers. -/
def host : Timer.Host Service ServiceTimer where
  table := Service.timers
  withTable service timers := { service with timers }
  run := fire

/-- Let time pass; timers fire unless they were cancelled. -/
def advance
    (service : Service)
    (milliseconds : Nat) :
    Service :=
  let target := service.now + milliseconds
  if service.isCancelled then
    { service with now := target }
  else
    { host.advance target service.now service with now := target }

/-- Add an executor slot and queue a work on it. -/
def submit
    (service : Service)
    (slotName : String)
    (work : Executor.Work) :
    Service :=
  let (handle, executor) := service.heavy.executor.create slotName
  { service with
    heavy := ({ service.heavy with executor }.put handle work .done .refused).2 }

/-- Let the executor do what is queued. -/
def settle (service : Service) : Service :=
  { service with heavy := service.heavy.settle }

/-- Let the executor begin the next work that is queued, and not finish it. -/
def beginWork (service : Service) : Service :=
  { service with
    heavy :=
      Executor.Bench.crew.settleUntil
        (fun bench => bench.executor.isRunning)
        service.heavy }

/-- Cancel the timers. -/
def cancel (service : Service) : Service :=
  { service with isCancelled := true }

/-- Let the task of the timers look whether it was cancelled. -/
def endTimers (service : Service) : Service :=
  { service with timersEnded := service.isCancelled }

/-- Let the task of the timers wake up once more before it notices that it was cancelled. -/
def wakeUpLast (service : Service) : Service :=
  if service.isCancelled && !service.timersEnded then
    { host.wakeUp (service.now + 1) service with now := service.now + 1, timersEnded := true }
  else
    service

/-- Tell the executor to stop. -/
def stopExecutor (service : Service) : Service :=
  { service with heavy := service.heavy.requestStop }

/-- What happens on a service, before or after it is stopped. -/
inductive Operation where
  | schedule (delay : Nat) (timer : ServiceTimer)
  /-- Arm or clear the timer of a slot, whatever its deadline is. -/
  | arm (handle : Nat) (alarm? : Option (Timer.Alarm ServiceTimer))
  | advance (milliseconds : Nat)
  | endTimers
  | wakeUpLast
  | submit (slotName : String) (work : Executor.Work)
  | perform (action : Executor.Action)
  /-- The worker takes a step. -/
  | work
  | beginWork
  | settle

def operate (service : Service) : Operation → Service
  | .schedule delay timer =>
      service.schedule delay timer
  | .arm handle alarm? =>
      { service with timers := service.timers.replace handle alarm? }
  | .advance milliseconds =>
      service.advance milliseconds
  | .endTimers =>
      service.endTimers
  | .wakeUpLast =>
      service.wakeUpLast
  | .submit slotName work =>
      service.submit slotName work
  | .perform action =>
      { service with heavy := (service.heavy.perform action).2 }
  | .work =>
      { service with heavy := (Executor.Bench.crew.step? service.heavy).getD service.heavy }
  | .beginWork =>
      service.beginWork
  | .settle =>
      service.settle

def operateAll
    (service : Service)
    (operations : List Operation) :
    Service :=
  operations.foldl operate service

/-- The components that did not come to rest while they were awaited. -/
def stuck (joined stopped : Service) : List String :=
  (if joined.timersEnded then [] else [SlotOwner.scheduler.name]) ++
    if stopped.heavy.executor.hasExited then [] else [SlotOwner.executor.name]

/-- A stop succeeds if nothing is stuck. -/
def outcome
    (grace : Nat) :
    List String → Except ServiceError Unit
  | [] =>
      .ok ()
  | stuck =>
      .error (.graceExceeded grace stuck)

/--
Stop the service, step by step.  Other threads go on meanwhile: some operations happen while
the task of the timers is awaited, and others while the worker is awaited, for which a
thread is needed that may not be had.
-/
def shutdownThrough
    (service : Service)
    (untilJoined : List Operation)
    (joiner : Except String Unit)
    (untilStopped : List Operation) :
    Except ServiceError Unit × Service :=
  let joined := service.cancel.operateAll untilJoined
  match joiner with
  | .error cause =>
      (.error (.workerSpawn (service.workerName ++ "-join") cause), joined)
  | .ok () =>
      let stopped := joined.stopExecutor.operateAll untilStopped
      (outcome service.grace (stuck joined stopped), stopped)

/--
Stop the service while nobody else acts on it.  A work that is being done and does not end
within the grace leaves the executor stuck.
-/
def shutdown
    (service : Service)
    (worksEnd : Bool) :
    Except ServiceError Unit × Service :=
  service.shutdownThrough [.endTimers] (.ok ()) (if worksEnd then [.settle] else [])

end Service

end RefreshRate
