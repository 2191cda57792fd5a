import Mathlib.Data.List.Induction
import RefreshRate.Proofs.Controller.Reaction
import RefreshRate.Proofs.Timer.Due

namespace RefreshRate.Controller

/-!
# Runs of a controller

A run is a list of moves: a signal reaches the controller, the clock goes on, an
alarm that is due fires, or the worker of the executor makes one step.  Moves
come in any order and number, so the worker may lag behind as far as it likes,
and an alarm may fire late.  A move that is not possible changes nothing.

Letting time pass, with an executor that settles after each alarm, is a run as well
(`leads_advance`).
-/

/-- One thing that happens to a controller or to what it works with. -/
inductive Move where
  /-- A signal reaches the controller. -/
  | receive (signal : Signal)
  /-- The clock goes on. -/
  | elapse (milliseconds : Nat)
  /-- The alarm that is due fires, and its debounce is done. -/
  | fire
  /-- The worker of the executor makes one step. -/
  | work
  deriving Repr, DecidableEq

namespace Move

/-- The signal that a move brings. -/
def signal? : Move → Option Signal
  | .receive signal =>
      some signal
  | _ =>
      none

/-- The last selected thing that the signals of a run have told. -/
def lastOf?
    {Told : Type}
    (select : Signal → Option Told)
    (moves : List Move) :
    Option Told :=
  (moves.filterMap fun move => move.signal?.bind select).getLast?

/-- A move that tells something new takes the place of what was told before. -/
@[simp] theorem lastOf?_concat
    {Told : Type}
    (select : Signal → Option Told)
    (moves : List Move)
    (move : Move) :
    lastOf? select (moves ++ [move]) =
      (move.signal?.bind select).or (lastOf? select moves) := by
  unfold lastOf?
  cases told : move.signal?.bind select with
  | none =>
      simp [told]
  | some thing =>
      simp [told]

end Move

namespace World

/-- The debounce of which the alarm is due. -/
def due? (world : World) : Option Debounce :=
  (world.timers.takeDue? world.now).map fun taken => taken.1.alarm.work

/-- Take the alarm that is due and do its debounce. -/
def fireDue (world : World) : World :=
  match world.timers.takeDue? world.now with
  | none =>
      world
  | some (firing, timers) =>
      { world with timers }.expire firing.alarm.work

/-- Make a move. -/
def step (world : World) : Move → World
  | .receive signal =>
      world.receive signal
  | .elapse milliseconds =>
      { world with now := world.now + milliseconds }
  | .fire =>
      world.fireDue
  | .work =>
      (crew.step? world).getD world

/-- Make moves one after the other. -/
def run
    (world : World)
    (moves : List Move) :
    World :=
  moves.foldl step world

/-- The commands that the controller issues in a move. -/
def commands
    (world : World)
    (move : Move) :
    List Command :=
  if world.isAlive then
    match move with
    | .receive signal =>
        (world.state.receive signal).2
    | .fire =>
        world.due?.elim [] fun debounce => (world.state.expire debounce).2
    | .elapse _ | .work =>
        []
  else
    []

/-- The commands that the controller issues in a run. -/
def issued (world : World) : List Move → List Command
  | [] =>
      []
  | move :: rest =>
      world.commands move ++ (world.step move).issued rest

@[simp] theorem run_nil (world : World) : world.run [] = world :=
  rfl

@[simp] theorem run_cons
    (world : World)
    (move : Move)
    (moves : List Move) :
    world.run (move :: moves) = (world.step move).run moves :=
  rfl

@[simp] theorem run_append
    (world : World)
    (moves later : List Move) :
    world.run (moves ++ later) = (world.run moves).run later :=
  List.foldl_append

@[simp] theorem issued_append
    (world : World)
    (moves later : List Move) :
    world.issued (moves ++ later) =
      world.issued moves ++ (world.run moves).issued later := by
  induction moves generalizing world with
  | nil =>
      rfl
  | cons move rest inductionHypothesis =>
      simp [issued, inductionHypothesis]

theorem issued_singleton
    (world : World)
    (move : Move) :
    world.issued [move] = world.commands move :=
  List.append_nil _

/-- The world after the alarm of a debounce was taken and the debounce was done. -/
def fired
    (world : World)
    (debounce : Debounce) :
    World :=
  (world.carryOut (.cancel debounce)).react (world.state.expire debounce)

/-- A controller that has not been dropped, with all of its slots. -/
structure Operating (world : World) : Prop extends WellFormed world where
  isAlive : world.isAlive = true

theorem receive_of_operating
    {world : World}
    (operating : Operating world)
    (signal : Signal) :
    world.receive signal = world.react (world.state.receive signal) := by
  simp only [receive, operating.isAlive, if_true]

/-- What one step of the worker can do. -/
inductive Worked (world : World) : World → Prop where
  /-- It goes on without a switch. -/
  | goesOn
      (executor : Executor SwitchRequest)
      (sameSize : executor.size = world.executor.size)
      (sameQueue : executor.work? switchHandle = world.executor.work? switchHandle)
      (sameRunning : executor.isRunning = world.executor.isRunning) :
      Worked world { world with executor }
  /-- It takes the switch that is queued. -/
  | takes
      (executor : Executor SwitchRequest)
      (sameSize : executor.size = world.executor.size)
      (wasQueued : world.isSwitchQueued = true)
      (nowEmpty : executor.work? switchHandle = none)
      (isRunning : executor.isRunning = true) :
      Worked world { world with executor }
  /-- It does the switch that it has taken. -/
  | switches
      (executor : Executor SwitchRequest)
      (sameSize : executor.size = world.executor.size)
      (sameQueue : executor.work? switchHandle = world.executor.work? switchHandle)
      (wasRunning : world.executor.isRunning = true)
      (nowResting : executor.isRunning = false) :
      Worked world { world.switch with executor }

/-- What a move can do to the world of a controller that operates. -/
inductive Stepped (world : World) : Move → World → Prop where
  | received (signal : Signal) :
      Stepped world (.receive signal) (world.react (world.state.receive signal))
  | elapsed (milliseconds : Nat) :
      Stepped world (.elapse milliseconds) { world with now := world.now + milliseconds }
  | notFired (nothingDue : world.due? = none) :
      Stepped world .fire world
  | fired
      (debounce : Debounce)
      (deadline : Int)
      (due : world.due? = some debounce)
      (armed : world.alarm? debounce = some ⟨deadline, debounce⟩)
      (reached : deadline ≤ (world.now : Int)) :
      Stepped world .fire (world.fired debounce)
  | worked {next : World} (worked : Worked world next) :
      Stepped world .work next

/-- What is due is armed, and its deadline has been reached. -/
theorem alarm?_of_due?_eq_some
    {world : World}
    (wellFormed : WellFormed world)
    {debounce : Debounce}
    (due : world.due? = some debounce) :
    ∃ deadline : Int,
      world.alarm? debounce = some ⟨deadline, debounce⟩ ∧ deadline ≤ (world.now : Int) := by
  obtain ⟨⟨firing, rest⟩, taken, rfl⟩ := Option.map_eq_some_iff.1 due
  obtain ⟨armed, reached, -⟩ := Timer.Table.takeDue?_eq_some taken
  refine ⟨firing.alarm.deadline, ?_, reached⟩
  rw [World.alarm?, wellFormed.ownSlot armed]
  exact armed

theorem fireDue_of_due?_eq_none
    {world : World}
    (nothingDue : world.due? = none) :
    world.fireDue = world := by
  have notTaken := Option.map_eq_none_iff.1 nothingDue
  simp only [fireDue, notTaken]

theorem fireDue_of_due?_eq_some
    {world : World}
    (operating : Operating world)
    {debounce : Debounce}
    (due : world.due? = some debounce) :
    world.fireDue = world.fired debounce := by
  obtain ⟨⟨firing, rest⟩, taken, rfl⟩ := Option.map_eq_some_iff.1 due
  obtain ⟨armed, -, rfl⟩ := Timer.Table.takeDue?_eq_some taken
  simp only [fireDue, taken, expire, operating.isAlive, if_true, World.fired, carryOut,
    operating.ownSlot armed]

theorem worked_step_work
    {world : World}
    (wellFormed : WellFormed world) :
    Worked world (world.step .work) := by
  have executorIs : crew.executor world = world.executor := rfl
  cases working : world.executor.worker with
  | waiting =>
      simp only [step, Executor.Crew.step?, executorIs, working]
      split
      · refine .goesOn _ rfl rfl ?_
        simp [Executor.isRunning, working]
      · split
        · refine .goesOn _ rfl rfl ?_
          simp [Executor.isRunning, working]
        · exact .goesOn _ rfl rfl rfl
  | scanning cursor =>
      simp only [step, Executor.Crew.step?, executorIs, working, Option.getD_some]
      unfold Executor.scan
      split
      · refine .goesOn _ rfl rfl ?_
        simp [Executor.isRunning, working]
      · rename_i slot present
        split
        · refine .goesOn _ rfl rfl ?_
          simp [Executor.isRunning, working]
        · rename_i work queued
          -- the executor has one slot, so a work that is found is the queued switch
          have onlySlot : cursor = switchHandle := by
            have inBounds : cursor < world.executor.size :=
              (List.getElem?_eq_some_iff.1 present).1
            rw [wellFormed.switchSlot] at inBounds
            exact Nat.lt_one_iff.1 inBounds
          subst onlySlot
          have emptied :
              (world.executor.replace switchHandle none).work? switchHandle = none := by
            simp [Executor.work?_replace, switchHandle, wellFormed.switchSlot]
          refine .takes _ (Executor.size_replace ..) ?_ emptied rfl
          simp [isSwitchQueued, Executor.work?, present, queued]
  | running cursor slotName work =>
      have afterSwitch : crew.executor (crew.run cursor slotName work world) = world.executor :=
        executor_switch world
      simp only [step, Executor.Crew.step?, executorIs, working, Option.getD_some,
        Executor.Crew.finish, afterSwitch]
      refine .switches _ rfl rfl ?_ rfl
      simp [Executor.isRunning, working]
  | exited =>
      simp only [step, Executor.Crew.step?, executorIs, working]
      exact .goesOn _ rfl rfl rfl

theorem worked_of_step?_eq_some
    {world next : World}
    (wellFormed : WellFormed world)
    (stepped : crew.step? world = some next) :
    Worked world next := by
  have worked := worked_step_work wellFormed
  simp only [step, stepped, Option.getD_some] at worked
  exact worked

/-- Every move of a controller that operates is one of the listed steps. -/
theorem stepped_step
    {world : World}
    (operating : Operating world)
    (move : Move) :
    Stepped world move (world.step move) := by
  cases move with
  | receive signal =>
      have received : world.step (.receive signal) = world.react (world.state.receive signal) :=
        receive_of_operating operating signal
      rw [received]
      exact .received signal
  | elapse milliseconds =>
      exact .elapsed milliseconds
  | fire =>
      cases due : world.due? with
      | none =>
          have unchanged : world.step .fire = world := fireDue_of_due?_eq_none due
          rw [unchanged]
          exact .notFired due
      | some debounce =>
          have done : world.step .fire = world.fired debounce :=
            fireDue_of_due?_eq_some operating due
          obtain ⟨deadline, armed, reached⟩ := alarm?_of_due?_eq_some operating.toWellFormed due
          rw [done]
          exact .fired debounce deadline due armed reached
  | work =>
      exact .worked (worked_step_work operating.toWellFormed)

section Switch

variable (world : World)

@[simp] theorem timers_switch : world.switch.timers = world.timers := by
  unfold switch
  split <;> rfl

@[simp] theorem now_switch : world.switch.now = world.now := by
  unfold switch
  split <;> rfl

@[simp] theorem config_switch : world.switch.config = world.config := by
  unfold switch
  split <;> rfl

@[simp] theorem isAlive_switch : world.switch.isAlive = world.isAlive := by
  unfold switch
  split <;> rfl

end Switch

namespace Stepped

variable {world next : World} {move : Move}

theorem config_eq (stepped : Stepped world move next) : next.config = world.config := by
  cases stepped with
  | received signal =>
      exact config_react _ _
  | elapsed milliseconds =>
      rfl
  | notFired nothingDue =>
      rfl
  | fired debounce deadline due armed reached =>
      exact config_react _ _
  | worked worked =>
      cases worked with
      | goesOn =>
          rfl
      | takes =>
          rfl
      | switches =>
          exact config_switch world

theorem operating
    (stepped : Stepped world move next)
    (operating : Operating world) :
    Operating next := by
  cases stepped with
  | received signal =>
      exact
        ⟨wellFormed_react operating.toWellFormed _, by simp [operating.isAlive]⟩
  | elapsed milliseconds =>
      exact ⟨⟨operating.timerSlots, operating.switchSlot, operating.ownSlot⟩, operating.isAlive⟩
  | notFired nothingDue =>
      exact operating
  | fired debounce deadline due armed reached =>
      exact
        ⟨wellFormed_react (wellFormed_carryOut operating.toWellFormed _) _,
          (isAlive_react _ _).trans operating.isAlive⟩
  | worked worked =>
      cases worked with
      | goesOn executor sameSize =>
          exact
            ⟨⟨operating.timerSlots, sameSize.trans operating.switchSlot, operating.ownSlot⟩,
              operating.isAlive⟩
      | takes executor sameSize =>
          exact
            ⟨⟨operating.timerSlots, sameSize.trans operating.switchSlot, operating.ownSlot⟩,
              operating.isAlive⟩
      | switches executor sameSize =>
          refine ⟨⟨?_, sameSize.trans operating.switchSlot, ?_⟩, ?_⟩
          · simp [operating.timerSlots]
          · intro handle alarm found
            rw [timers_switch] at found
            exact operating.ownSlot found
          · simp [operating.isAlive]

/-- The clock never goes back. -/
theorem now_le (stepped : Stepped world move next) : world.now ≤ next.now := by
  cases stepped with
  | received signal =>
      exact Nat.le_of_eq (now_react _ _).symm
  | elapsed milliseconds =>
      exact Nat.le_add_right world.now milliseconds
  | notFired nothingDue =>
      exact Nat.le_refl world.now
  | fired debounce deadline due armed reached =>
      have sameNow : (world.fired debounce).now = world.now := now_react _ _
      exact Nat.le_of_eq sameNow.symm
  | worked worked =>
      cases worked with
      | goesOn executor =>
          exact Nat.le_refl world.now
      | takes executor =>
          exact Nat.le_refl world.now
      | switches executor =>
          exact Nat.le_of_eq (now_switch world).symm

end Stepped

theorem operating_create (config : Config) : Operating (create config) :=
  ⟨wellFormed_create config, rfl⟩

theorem operating_run
    {world : World}
    (operating : Operating world)
    (moves : List Move) :
    Operating (world.run moves) := by
  induction moves generalizing world with
  | nil =>
      exact operating
  | cons move rest inductionHypothesis =>
      exact inductionHypothesis ((stepped_step operating move).operating operating)

/-- What every allowed step keeps is kept by a run of allowed moves. -/
theorem run_invariant
    {motive : World → Prop}
    {allowed : Move → Prop}
    (kept :
      ∀ {world next move},
        Operating world →
        Stepped world move next →
        allowed move →
        motive world →
        motive next)
    {world : World}
    {moves : List Move}
    (operating : Operating world)
    (allAllowed : ∀ move ∈ moves, allowed move)
    (atStart : motive world) :
    motive (world.run moves) := by
  induction moves generalizing world with
  | nil =>
      exact atStart
  | cons move rest inductionHypothesis =>
      have stepped := stepped_step operating move
      have moveAllowed := allAllowed move List.mem_cons_self
      exact
        inductionHypothesis (stepped.operating operating)
          (fun later member => allAllowed later (List.mem_cons_of_mem move member))
          (kept operating stepped moveAllowed atStart)

theorem config_run
    {world : World}
    (operating : Operating world)
    (moves : List Move) :
    (world.run moves).config = world.config := by
  refine
    run_invariant
      (motive := fun later => later.config = world.config)
      ?_ operating (fun _ _ => trivial) rfl
  intro before next move _ stepped _ same
  exact stepped.config_eq.trans same

theorem now_le_run
    {world : World}
    (operating : Operating world)
    (moves : List Move) :
    world.now ≤ (world.run moves).now := by
  refine
    run_invariant
      (motive := fun later => world.now ≤ later.now)
      ?_ operating (fun _ _ => trivial) (Nat.le_refl world.now)
  intro before next move _ stepped _ notBack
  exact Nat.le_trans notBack stepped.now_le

/-- What holds of a new controller and is kept by every step holds in every run. -/
theorem run_induction
    {motive : List Move → World → Prop}
    (config : Config)
    (atStart : motive [] (create config))
    (kept :
      ∀ moves move next,
        Operating ((create config).run moves) →
        Stepped ((create config).run moves) move next →
        motive moves ((create config).run moves) →
        motive (moves ++ [move]) next)
    (moves : List Move) :
    motive moves ((create config).run moves) := by
  induction moves using List.reverseRecOn with
  | nil =>
      exact atStart
  | append_singleton moves move inductionHypothesis =>
      have operating := operating_run (operating_create config) moves
      rw [run_append]
      exact kept moves move _ operating (stepped_step operating move) inductionHypothesis

/-- A configuration with one package, for runs that show something. -/
def sampleConfig : Config where
  rules := ⟨⟨60, 120⟩, ⟨30, 30⟩, PackageRules.empty.insert "com.game" ⟨90, 144⟩⟩
  tunables := { touchSlack := 1000, gestureSlack := 500 }

end World

end RefreshRate.Controller
