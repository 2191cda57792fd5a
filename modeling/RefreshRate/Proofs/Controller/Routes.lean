import RefreshRate.Proofs.Controller.Settled

namespace RefreshRate

/-!
# By the bus or by hand

Signals can be published on the bus on which the controller is registered, or handed over
to a controller that is on no bus.  A signal that is published comes to the controller
exactly once, unless it is about a control group: of such a signal the controller does not
hear on the bus, and it ignores it when it is handed over.  As nothing else depends on the
bus, the controller goes through the same on both routes.
-/

/-- Whether a signal is about a control group. -/
def Signal.isAboutGroup : Signal → Bool
  | .cgroup _ _ =>
      true
  | _ =>
      false

namespace Executor.Crew

variable {World Work : Type}

/-- A change of the world that is neither seen nor undone by the executor and its works. -/
structure Ignores
    (crew : Crew World Work)
    (change : World → World) :
    Prop where
  executor : ∀ world, crew.executor (change world) = crew.executor world
  withExecutor :
    ∀ world executor,
      crew.withExecutor (change world) executor = change (crew.withExecutor world executor)
  run :
    ∀ handle slotName work world,
      crew.run handle slotName work (change world) = change (crew.run handle slotName work world)

namespace Ignores

variable
  {crew : Crew World Work}
  {change : World → World}
  (ignores : crew.Ignores change)
  (world : World)

include ignores

theorem step?_eq : crew.step? (change world) = (crew.step? world).map change := by
  simp only [step?, startPass, exit, finish, ignores.executor, ignores.withExecutor, ignores.run]
  cases (crew.executor world).worker with
  | waiting =>
      by_cases pending : (crew.executor world).isPending = true
      · simp only [if_pos pending, Option.map_some]
      · by_cases stopping : (crew.executor world).isStopping = true
        · simp only [if_neg pending, if_pos stopping, Option.map_some]
        · simp only [if_neg pending, if_neg stopping, Option.map_none]
  | scanning cursor =>
      rfl
  | running cursor slotName work =>
      rfl
  | exited =>
      rfl

theorem settle_eq : crew.settle (change world) = change (crew.settle world) := by
  unfold settle
  fun_induction settleUntil crew (fun _ => false) world with
  | case1 world reached =>
      cases reached
  | case2 world notReached resting =>
      have restingToo : crew.step? (change world) = none := by
        rw [ignores.step?_eq, resting, Option.map_none]
      rw [settleUntil, if_neg notReached]
      split
      · rfl
      · rename_i next stepped
        cases restingToo.symm.trans stepped
  | case3 world notReached next stepped inductionHypothesis =>
      have steppedToo : crew.step? (change world) = some (change next) := by
        rw [ignores.step?_eq, stepped, Option.map_some]
      rw [settleUntil, if_neg notReached]
      split
      · rename_i resting
        cases resting.symm.trans steppedToo
      · rename_i other steppedOther
        cases steppedToo.symm.trans steppedOther
        exact inductionHypothesis

end Ignores

end Executor.Crew

namespace Timer.Host

variable {World Work : Type}

/-- A change of the world that is neither seen nor undone by the timers and their works. -/
structure Ignores
    (host : Host World Work)
    (change : World → World) :
    Prop where
  table : ∀ world, host.table (change world) = host.table world
  withTable :
    ∀ world table, host.withTable (change world) table = change (host.withTable world table)
  run :
    ∀ now firing world, host.run now firing (change world) = change (host.run now firing world)

namespace Ignores

variable
  {host : Host World Work}
  {change : World → World}
  (ignores : host.Ignores change)

include ignores

theorem wakeUp_eq
    (now : Nat)
    (world : World) :
    host.wakeUp now (change world) = change (host.wakeUp now world) := by
  unfold wakeUp
  rw [ignores.table]
  split
  · rfl
  · rw [ignores.withTable, ignores.run]

theorem tick_eq
    (remaining now : Nat)
    (world : World) :
    host.tick remaining now (change world) = change (host.tick remaining now world) := by
  induction remaining generalizing now world with
  | zero =>
      rfl
  | succ remaining inductionHypothesis =>
      simp only [tick, ignores.wakeUp_eq, inductionHypothesis]

end Ignores

end Timer.Host

namespace Controller

/-- What can happen to a controller whose timers are on time. -/
inductive Occurrence where
  /-- A signal comes; what it requests waits for the worker. -/
  | receive (signal : Signal)
  /-- The worker of the executor makes one step. -/
  | work
  /-- A millisecond passes, and then the alarm that is due fires. -/
  | tick
  /-- The executor does all switches that are requested. -/
  | settle
  /-- Time passes, and the executor settles after each alarm. -/
  | advance (milliseconds : Nat)
  deriving Repr, DecidableEq

/-- The signal that comes in an occurrence. -/
def Occurrence.signal? : Occurrence → Option Signal
  | .receive signal =>
      some signal
  | _ =>
      none

namespace World

def meet
    (route : Route)
    (world : World) :
    Occurrence → World
  | .receive signal =>
      world.deliver signal route
  | .work =>
      world.step .work
  | .tick =>
      world.beat .tick
  | .settle =>
      world.settle
  | .advance milliseconds =>
      world.advance milliseconds

def meetAll
    (route : Route)
    (world : World)
    (occurrences : List Occurrence) :
    World :=
  occurrences.foldl (meet route) world

/-- The signals that the controller is called with when a signal comes on a route. -/
def heardOf
    (route : Route)
    (world : World)
    (signal : Signal) :
    List Signal :=
  match route with
  | .direct =>
      [signal]
  | .bus =>
      world.bus.publish (fun _ signal heard => heard ++ [signal]) signal []

/-- The signals that the controller is called with, in their order. -/
def heard
    (route : Route)
    (world : World) :
    List Occurrence → List Signal
  | [] =>
      []
  | occurrence :: rest =>
      occurrence.signal?.toList.flatMap (world.heardOf route) ++
        (world.meet route occurrence).heard route rest

/-- The world with another bus. -/
def withBus
    (world : World)
    (bus : Bus Unit) :
    World :=
  { world with bus }

section WithBus

variable (world : World) (bus : Bus Unit)

theorem issue_withBus
    (command : Command) :
    (world.withBus bus).issue command = (world.issue command).map (·.withBus bus) := by
  cases command with
  | requestSwitch =>
      simp only [issue, withBus]
      cases world.executor.put switchHandle () <;> rfl
  | arm debounce =>
      simp only [issue, withBus, deadline]
      cases world.timers.put debounce.handle _ <;> rfl
  | cancel debounce =>
      simp only [issue, withBus]
      cases world.timers.put debounce.handle none <;> rfl

theorem issueAll_withBus
    (commands : List Command) :
    (world.withBus bus).issueAll commands = (world.issueAll commands).withBus bus := by
  induction commands generalizing world with
  | nil =>
      rfl
  | cons command rest inductionHypothesis =>
      simp only [issueAll, issue_withBus]
      cases world.issue command with
      | error reason =>
          rfl
      | ok next =>
          exact inductionHypothesis next

theorem isAlive_withBus : (world.withBus bus).isAlive = world.isAlive :=
  rfl

theorem react_withBus
    (reaction : Reaction) :
    (world.withBus bus).react reaction = (world.react reaction).withBus bus :=
  issueAll_withBus { world with state := reaction.1 } bus reaction.2

theorem receive_withBus
    (signal : Signal) :
    (world.withBus bus).receive signal = (world.receive signal).withBus bus := by
  cases isAlive : world.isAlive with
  | false =>
      simp only [receive, isAlive_withBus, isAlive, Bool.false_eq_true, if_false]
  | true =>
      simp only [receive, isAlive_withBus, isAlive, if_true]
      exact react_withBus world bus (world.state.receive signal)

theorem expire_withBus
    (debounce : Debounce) :
    (world.withBus bus).expire debounce = (world.expire debounce).withBus bus := by
  cases isAlive : world.isAlive with
  | false =>
      simp only [expire, isAlive_withBus, isAlive, Bool.false_eq_true, if_false]
  | true =>
      simp only [expire, isAlive_withBus, isAlive, if_true]
      exact react_withBus world bus (world.state.expire debounce)

theorem switch_withBus : (world.withBus bus).switch = world.switch.withBus bus := by
  cases isAlive : world.isAlive with
  | false =>
      simp only [switch, isAlive_withBus, isAlive, Bool.false_eq_true, if_false]
  | true =>
      simp only [switch, isAlive_withBus, isAlive, if_true]
      rfl

theorem ignores_withBus_crew : crew.Ignores (·.withBus bus) where
  executor _ := rfl
  withExecutor _ _ := rfl
  run _ _ _ world := switch_withBus world bus

theorem settle_withBus : (world.withBus bus).settle = world.settle.withBus bus :=
  (ignores_withBus_crew bus).settle_eq world

theorem ignores_withBus_host : host.Ignores (·.withBus bus) where
  table _ := rfl
  withTable _ _ := rfl
  run now firing world := by
    have expired :
        (world.withBus bus).expireAt now firing = (world.expireAt now firing).withBus bus :=
      expire_withBus { world with now } bus firing.alarm.work
    simp only [host, fire, expired, settle_withBus]

theorem step_work_withBus : (world.withBus bus).step .work = (world.step .work).withBus bus := by
  simp only [step, (ignores_withBus_crew bus).step?_eq]
  cases crew.step? world <;> rfl

theorem beat_tick_withBus : (world.withBus bus).beat .tick = (world.beat .tick).withBus bus := by
  have ticked : ∀ world : World, world.beat .tick = world.later.fireDue := fun _ => rfl
  have sameDue :
      (world.withBus bus).later.timers.takeDue? (world.withBus bus).later.now =
        world.later.timers.takeDue? world.later.now :=
    rfl
  rw [ticked, ticked]
  unfold fireDue
  rw [sameDue]
  split
  · rfl
  · rename_i firing timers taken
    exact expire_withBus { world.later with timers } bus firing.alarm.work

theorem advance_withBus
    (milliseconds : Nat) :
    (world.withBus bus).advance milliseconds = (world.advance milliseconds).withBus bus := by
  have sameClock : (world.withBus bus).now = world.now := rfl
  simp only [advance, sameClock, Timer.Host.advance_eq_tick, (ignores_withBus_host bus).tick_eq]
  rfl

end WithBus

/-- Something that happens on the bus and by hand has the same effect. -/
theorem meet_withBus
    (world : World)
    (occurrence : Occurrence) :
    (world.withBus ownBus).meet .bus occurrence =
      (world.meet .direct occurrence).withBus ownBus := by
  cases occurrence with
  | receive signal =>
      have isOpen : (world.withBus ownBus).IsOpen .bus := rfl
      exact (deliver_eq_receive isOpen signal).trans (receive_withBus world ownBus signal)
  | work =>
      exact step_work_withBus world ownBus
  | tick =>
      exact beat_tick_withBus world ownBus
  | settle =>
      exact settle_withBus world ownBus
  | advance milliseconds =>
      exact advance_withBus world ownBus milliseconds

theorem meetAll_withBus
    (world : World)
    (occurrences : List Occurrence) :
    (world.withBus ownBus).meetAll .bus occurrences =
      (world.meetAll .direct occurrences).withBus ownBus := by
  induction occurrences generalizing world with
  | nil =>
      rfl
  | cons occurrence rest inductionHypothesis =>
      simp only [meetAll, List.foldl_cons, meet_withBus]
      exact inductionHypothesis (world.meet .direct occurrence)

/-- Of a signal on the bus the controller hears once, unless it is about a control group. -/
theorem heardOf_withBus
    (world : World)
    (signal : Signal) :
    (world.withBus ownBus).heardOf .bus signal =
      if signal.isAboutGroup then [] else [signal] := by
  simp only [heardOf, Bus.publish, withBus, subscribers_ownBus]
  cases signal <;> rfl

/-- What comes of a signal comes of calling the controller with what it hears of it. -/
theorem deliver_eq_foldl_heardOf
    (world : World)
    (route : Route)
    (signal : Signal) :
    world.deliver signal route = (world.heardOf route signal).foldl receive world := by
  cases route with
  | direct =>
      rfl
  | bus =>
      simp only [deliver, publish, Bus.publish, heardOf]
      generalize world.bus.subscribers signal.topic = subscribers
      induction subscribers using List.reverseRecOn with
      | nil =>
          rfl
      | append_singleton earlier last inductionHypothesis =>
          simp only [List.foldl_append, List.foldl_cons, List.foldl_nil, inductionHypothesis]

theorem heard_withBus
    (world : World)
    (occurrences : List Occurrence) :
    (world.withBus ownBus).heard .bus occurrences =
      (occurrences.filterMap Occurrence.signal?).filter fun signal => !signal.isAboutGroup := by
  induction occurrences generalizing world with
  | nil =>
      rfl
  | cons occurrence rest inductionHypothesis =>
      simp only [heard, meet_withBus, inductionHypothesis, List.filterMap_cons]
      cases occurrence with
      | receive signal =>
          have once := heardOf_withBus world signal
          simp only [Occurrence.signal?, Option.toList_some, List.flatMap_singleton, once,
            List.filter_cons]
          cases signal.isAboutGroup <;> rfl
      | _ =>
          rfl

theorem heard_direct
    (world : World)
    (occurrences : List Occurrence) :
    world.heard .direct occurrences = occurrences.filterMap Occurrence.signal? := by
  induction occurrences generalizing world with
  | nil =>
      rfl
  | cons occurrence rest inductionHypothesis =>
      simp only [heard, inductionHypothesis, List.filterMap_cons]
      cases occurrence <;> rfl

/--
Whatever happens, a controller on the bus, whose signals are published, and one that is on
no bus, whose signals are handed over, agree in everything but the bus: in state, clock,
timers and executor, and in what has been switched and applied at which times.  What comes
of a signal is what comes of the calls of the controller.  The one on the bus is called
exactly once for each signal that is not about a control group, in their order, and the
other one for all signals; those about control groups change nothing.
-/
theorem meetAll_agrees_on_routes
    (config : Config)
    (occurrences : List Occurrence) :
    let onBus := (create config).start.meetAll .bus occurrences
    let byHand := (create config).meetAll .direct occurrences
    let signals := occurrences.filterMap Occurrence.signal?
    { onBus with bus := byHand.bus } = byHand ∧
      (∀ (world : World) route signal,
          world.deliver signal route = (world.heardOf route signal).foldl receive world) ∧
        (create config).start.heard .bus occurrences =
            signals.filter (fun signal => !signal.isAboutGroup) ∧
          (create config).heard .direct occurrences = signals ∧
            ∀ group tasks,
              onBus.deliver (.cgroup group tasks) .bus = onBus ∧
                byHand.deliver (.cgroup group tasks) .direct = byHand := by
  intro onBus byHand signals
  have started : (create config).start = (create config).withBus ownBus := rfl
  have sameWorld : onBus = byHand.withBus ownBus := meetAll_withBus (create config) occurrences
  refine
    ⟨?_, deliver_eq_foldl_heardOf, heard_withBus (create config) occurrences,
      heard_direct _ occurrences, ?_⟩
  · rw [sameWorld]
    rfl
  · intro group tasks
    have unheard : onBus.heardOf .bus (.cgroup group tasks) = [] := by
      rw [sameWorld, heardOf_withBus]
      rfl
    refine ⟨?_, receive_cgroup byHand group tasks⟩
    rw [deliver_eq_foldl_heardOf, unheard]
    rfl

end World

end Controller

end RefreshRate
