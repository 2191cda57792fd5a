import RefreshRate.Bus.Registry
import RefreshRate.Controller.State
import RefreshRate.Executor.Crew
import RefreshRate.Timer.Host

namespace RefreshRate.Controller

/-!
# The controller in its world

The world joins the controller's state with the timers of its debounces, the
executor that does its switches, and the bus that brings its signals.  A
signal is taken in at once, a switch is done when the executor gets to it, and
a debounce is done when its timer fires.  A dropped controller does nothing any
more, whatever is still armed or queued.
-/

/-- The work of the executor: resolve the target and offer it to the gate. -/
abbrev SwitchRequest :=
  Unit

/-- What can be seen of the controller from outside. -/
inductive Event where
  /-- A switch was done: the target and the force at that time. -/
  | switched (value : Int) (forced : Bool)
  /-- The gate let a value pass to the display. -/
  | applied (time : Nat) (mode : SwitchMode) (value : Int) (forced : Bool)
  deriving Repr, DecidableEq

/-- A controller with everything that it works with. -/
structure World where
  config : Config
  isAlive : Bool := true
  state : State := {}
  now : Nat := 0
  timers : Timer.Table Debounce := {}
  executor : Executor SwitchRequest := {}
  bus : Bus Unit := {}
  history : List Event := []
  /-- Unknown handles that the controller has used. -/
  faults : List HandleError := []

namespace World

/-- The name of the controller as a subscriber. -/
def subscriberName : String :=
  "rate-controller"

/-- The topics that the controller subscribes to. -/
def topics : List Topic :=
  [.touch, .button, .inputState, .topApp, .offscreen]

/-- The name of the executor slot for switches. -/
def switchSlotName : String :=
  "dfps.switch"

/-- The handle of the executor slot for switches. -/
def switchHandle : Nat :=
  0

/-- A new controller with its slots, which is not yet on the bus. -/
def create (config : Config) : World where
  config := config
  timers := Debounce.all.foldl (fun table debounce => (table.create debounce.slotName).2) {}
  executor := (Executor.create {} switchSlotName).2

/-- Put the controller on the bus. -/
def start (world : World) : World :=
  { world with bus := world.bus.subscribeAll topics () }

/-- Drop the controller. -/
def drop (world : World) : World :=
  { world with isAlive := false }

/-- The value that the display should have. -/
def target (world : World) : Int :=
  world.state.target world.config.rules

/-- The deadline of a debounce that is armed now. -/
def deadline
    (world : World)
    (debounce : Debounce) :
    Int :=
  (world.now + debounce.slack world.config.tunables : Nat)

/-- Carry out one command. -/
def issue (world : World) : Command → Except HandleError World
  | .requestSwitch =>
      (world.executor.put switchHandle ()).map fun executor => { world with executor }
  | .arm debounce =>
      (world.timers.put debounce.handle (some ⟨world.deadline debounce, debounce⟩)).map
        fun timers => { world with timers }
  | .cancel debounce =>
      (world.timers.put debounce.handle none).map fun timers => { world with timers }

/-- Carry out commands in order; an unknown handle ends them. -/
def issueAll
    (world : World) :
    List Command → World
  | [] =>
      world
  | command :: rest =>
      match world.issue command with
      | .ok next =>
          next.issueAll rest
      | .error reason =>
          { world with faults := world.faults ++ [reason] }

/-- Take over the state of a reaction and carry out its commands. -/
def react
    (world : World)
    (reaction : Reaction) :
    World :=
  { world with state := reaction.1 }.issueAll reaction.2

/-- Take in a signal. -/
def receive
    (world : World)
    (signal : Signal) :
    World :=
  if world.isAlive then
    world.react (world.state.receive signal)
  else
    world

/-- Do a debounce of which the slack time has ended. -/
def expire
    (world : World)
    (debounce : Debounce) :
    World :=
  if world.isAlive then
    world.react (world.state.expire debounce)
  else
    world

/-- The events of a switch that is done now. -/
def switchEvents (world : World) : List Event :=
  let forced := world.state.gate.isForced
  .switched world.target forced ::
    match (world.state.switch world.config.rules).1 with
    | some admission =>
        [.applied world.now world.config.tunables.mode admission.value admission.forced]
    | none =>
        []

/-- Do a switch. -/
def switch (world : World) : World :=
  if world.isAlive then
    { world with
      state := (world.state.switch world.config.rules).2
      history := world.history ++ world.switchEvents }
  else
    world

/-- A switch leaves the executor alone. -/
theorem executor_switch (world : World) : world.switch.executor = world.executor := by
  unfold switch
  split <;> rfl

/-- The world as the crew of its executor. -/
def crew : Executor.Crew World SwitchRequest where
  executor := World.executor
  withExecutor world executor := { world with executor }
  run _ _ _ world := world.switch
  weight _ := 1
  executor_withExecutor _ _ := rfl
  queuedWeight_run_lt _ _ _ world := by
    rw [executor_switch]
    exact Nat.lt_succ_self _

/-- Let the executor do all switches that are requested. -/
def settle (world : World) : World :=
  crew.settle world

/-- Do a debounce at a given time. -/
def expireAt
    (now : Nat)
    (firing : Timer.Firing Debounce)
    (world : World) :
    World :=
  { world with now }.expire firing.alarm.work

/-- Do a debounce at a given time and all switches that it requests. -/
def fire
    (now : Nat)
    (firing : Timer.Firing Debounce)
    (world : World) :
    World :=
  (world.expireAt now firing).settle

/-- The world as the host of its timers. -/
def host : Timer.Host World Debounce where
  table := World.timers
  withTable world timers := { world with timers }
  run := fire

/-- Let time pass. -/
def advance
    (world : World)
    (milliseconds : Nat) :
    World :=
  let target := world.now + milliseconds
  { host.advance target world.now world with now := target }

/-- Publish a signal on the bus. -/
def publish
    (world : World)
    (signal : Signal) :
    World :=
  world.bus.publish (fun _ signal world => world.receive signal) signal world

/-- How signals reach the controller. -/
inductive Route where
  | bus
  | direct
  deriving Repr, DecidableEq

/-- Hand a signal over to the controller. -/
def deliver
    (world : World)
    (signal : Signal) :
    Route → World
  | .bus => world.publish signal
  | .direct => world.receive signal

/-- Hand a signal over and let the executor do what it requests. -/
def send
    (world : World)
    (route : Route)
    (signal : Signal) :
    World :=
  (world.deliver signal route).settle

/-- Hand several signals over while the executor is busy with other work. -/
def deliverAll
    (world : World)
    (route : Route)
    (signals : List Signal) :
    World :=
  signals.foldl (fun world signal => world.deliver signal route) world

end World

end RefreshRate.Controller
