import RefreshRate.Controller.World

namespace RefreshRate.Controller

/-!
# What a reaction does to the world

In a world with all of its slots every command can be carried out, so a reaction
is its new state together with the effects of its commands, one after the other.
A command touches the switch slot or the alarm of its own debounce, nothing else.
-/

namespace Debounce

/-- Each debounce has a timer slot of its own. -/
theorem handle_inj
    {debounce other : Debounce} :
    debounce.handle = other.handle ↔ debounce = other := by
  cases debounce <;> cases other <;> decide

theorem handle_lt_length_all (debounce : Debounce) : debounce.handle < all.length := by
  cases debounce <;> decide

end Debounce

/-- The alarm that a debounce has after a command, given a deadline for new alarms. -/
def Command.alarmAfter?
    (debounce : Debounce)
    (deadline : Int)
    (alarm? : Option (Timer.Alarm Debounce)) :
    Command → Option (Timer.Alarm Debounce)
  | .requestSwitch =>
      alarm?
  | .arm other =>
      if other = debounce then some ⟨deadline, debounce⟩ else alarm?
  | .cancel other =>
      if other = debounce then none else alarm?

namespace World

/-- The alarm of a debounce. -/
def alarm?
    (world : World)
    (debounce : Debounce) :
    Option (Timer.Alarm Debounce) :=
  world.timers.alarm? debounce.handle

/-- Whether a debounce is armed. -/
def isArmed
    (world : World)
    (debounce : Debounce) :
    Bool :=
  (world.alarm? debounce).isSome

/-- A switch has been requested and the worker has not taken it. -/
def isSwitchQueued (world : World) : Bool :=
  (world.executor.work? switchHandle).isSome

/-- A switch is queued or running. -/
def isSwitching (world : World) : Bool :=
  world.isSwitchQueued || world.executor.isRunning

/-- The world has all of its slots, and an alarm is only ever in the slot of its debounce. -/
structure WellFormed (world : World) : Prop where
  timerSlots : world.timers.size = Debounce.all.length
  switchSlot : world.executor.size = 1
  ownSlot :
    ∀ {handle alarm},
      world.timers.alarm? handle = some alarm →
        alarm.work.handle = handle

/-- A new controller has all of its slots. -/
theorem wellFormed_create (config : Config) : WellFormed (create config) where
  timerSlots := rfl
  switchSlot := rfl
  ownSlot := by
    intro handle alarm found
    simp only [create, Debounce.all, List.foldl_cons, List.foldl_nil,
      Timer.Table.alarm?_create] at found
    cases found

/-- The effect of a command in a world with all of its slots. -/
def carryOut (world : World) : Command → World
  | .requestSwitch =>
      { world with
        executor := { world.executor.replace switchHandle (some ()) with isPending := true } }
  | .arm debounce =>
      { world with
        timers :=
          world.timers.replace debounce.handle (some ⟨world.deadline debounce, debounce⟩) }
  | .cancel debounce =>
      { world with timers := world.timers.replace debounce.handle none }

/-- With all of its slots the world can carry out every command. -/
theorem issue_eq_ok
    {world : World}
    (wellFormed : WellFormed world)
    (command : Command) :
    world.issue command = .ok (world.carryOut command) := by
  cases command with
  | requestSwitch =>
      simp [issue, carryOut, Executor.put, switchHandle, wellFormed.switchSlot, Except.map]
  | arm debounce =>
      simp [issue, carryOut, Timer.Table.put, wellFormed.timerSlots,
        debounce.handle_lt_length_all, Except.map]
  | cancel debounce =>
      simp [issue, carryOut, Timer.Table.put, wellFormed.timerSlots,
        debounce.handle_lt_length_all, Except.map]

theorem wellFormed_carryOut
    {world : World}
    (wellFormed : WellFormed world)
    (command : Command) :
    WellFormed (world.carryOut command) := by
  refine ⟨?_, ?_, ?_⟩
  · cases command <;> simp [carryOut, wellFormed.timerSlots]
  · cases command with
    | requestSwitch =>
        exact (Executor.size_replace world.executor switchHandle (some ())).trans
          wellFormed.switchSlot
    | arm debounce =>
        exact wellFormed.switchSlot
    | cancel debounce =>
        exact wellFormed.switchSlot
  · intro handle alarm found
    cases command with
    | requestSwitch =>
        exact wellFormed.ownSlot found
    | arm debounce =>
        simp only [carryOut, Timer.Table.alarm?_replace] at found
        split at found
        · rename_i same
          cases found
          exact same.1
        · exact wellFormed.ownSlot found
    | cancel debounce =>
        simp only [carryOut, Timer.Table.alarm?_replace] at found
        split at found
        · cases found
        · exact wellFormed.ownSlot found

/-- Replacing the alarm of one debounce leaves the others alone. -/
theorem alarm?_replace_handle
    {world : World}
    (wellFormed : WellFormed world)
    (debounce other : Debounce)
    (alarm? : Option (Timer.Alarm Debounce)) :
    (world.timers.replace other.handle alarm?).alarm? debounce.handle =
      if other = debounce then alarm? else world.alarm? debounce := by
  simp only [Timer.Table.alarm?_replace, Debounce.handle_inj, wellFormed.timerSlots,
    other.handle_lt_length_all, and_true]
  rfl

theorem alarm?_carryOut
    {world : World}
    (wellFormed : WellFormed world)
    (command : Command)
    (debounce : Debounce) :
    (world.carryOut command).alarm? debounce =
      command.alarmAfter? debounce (world.deadline debounce) (world.alarm? debounce) := by
  cases command with
  | requestSwitch =>
      rfl
  | arm other =>
      refine (alarm?_replace_handle wellFormed debounce other _).trans ?_
      by_cases same : other = debounce
      · subst same
        rfl
      · simp only [same, if_false, Command.alarmAfter?]
  | cancel other =>
      exact alarm?_replace_handle wellFormed debounce other none

theorem isSwitchQueued_carryOut
    {world : World}
    (wellFormed : WellFormed world)
    (command : Command) :
    (world.carryOut command).isSwitchQueued =
      (decide (command = .requestSwitch) || world.isSwitchQueued) := by
  cases command with
  | requestSwitch =>
      have queued :
          (world.executor.replace switchHandle (some ())).work? switchHandle = some () := by
        simp [Executor.work?_replace, switchHandle, wellFormed.switchSlot]
      simp only [isSwitchQueued, carryOut, decide_true, Bool.true_or]
      exact congrArg Option.isSome queued
  | arm debounce =>
      rfl
  | cancel debounce =>
      rfl

/-- Commands are carried out one after the other. -/
theorem issueAll_eq_foldl
    {world : World}
    (wellFormed : WellFormed world)
    (commands : List Command) :
    world.issueAll commands = commands.foldl carryOut world := by
  induction commands generalizing world with
  | nil =>
      rfl
  | cons command rest inductionHypothesis =>
      simp only [issueAll, issue_eq_ok wellFormed, List.foldl_cons]
      exact inductionHypothesis (wellFormed_carryOut wellFormed command)

theorem wellFormed_foldl_carryOut
    {world : World}
    (wellFormed : WellFormed world)
    (commands : List Command) :
    WellFormed (commands.foldl carryOut world) :=
  List.foldlRecOn commands carryOut wellFormed
    fun _ before command _ => wellFormed_carryOut before command

theorem alarm?_foldl_carryOut
    {world : World}
    (wellFormed : WellFormed world)
    (commands : List Command)
    (debounce : Debounce) :
    (commands.foldl carryOut world).alarm? debounce =
      commands.foldl
        (fun alarm? command =>
          command.alarmAfter? debounce (world.deadline debounce) alarm?)
        (world.alarm? debounce) := by
  induction commands generalizing world with
  | nil =>
      rfl
  | cons command rest inductionHypothesis =>
      -- a command moves neither the clock nor the slack times
      have sameDeadline :
          (world.carryOut command).deadline debounce = world.deadline debounce := by
        cases command <;> rfl
      simp only [List.foldl_cons]
      rw [inductionHypothesis (wellFormed_carryOut wellFormed command), sameDeadline,
        alarm?_carryOut wellFormed]

theorem isSwitchQueued_foldl_carryOut
    {world : World}
    (wellFormed : WellFormed world)
    (commands : List Command) :
    (commands.foldl carryOut world).isSwitchQueued =
      (decide (.requestSwitch ∈ commands) || world.isSwitchQueued) := by
  induction commands generalizing world with
  | nil =>
      simp
  | cons command rest inductionHypothesis =>
      rw [List.foldl_cons, inductionHypothesis (wellFormed_carryOut wellFormed command),
        isSwitchQueued_carryOut wellFormed]
      by_cases requested : command = .requestSwitch
      · simp [requested]
      · simp [requested, Ne.symm requested]

theorem worker_foldl_carryOut
    (world : World)
    (commands : List Command) :
    (commands.foldl carryOut world).executor.worker = world.executor.worker := by
  induction commands generalizing world with
  | nil =>
      rfl
  | cons command rest inductionHypothesis =>
      refine (inductionHypothesis _).trans ?_
      cases command <;> rfl

section View

variable
  {View : Type}
  (view : World → View)
  (sameView :
    ∀ world timers executor faults,
      view { world with timers, executor, faults } = view world)

include sameView

/-- What does not depend on timers, executor and faults is kept by a command. -/
theorem view_issue
    {world next : World}
    {command : Command}
    (issued : world.issue command = .ok next) :
    view next = view world := by
  cases command with
  | requestSwitch =>
      simp only [issue, Except.map] at issued
      split at issued
      · cases issued
      · cases issued
        exact sameView world world.timers _ world.faults
  | arm debounce =>
      simp only [issue, Except.map] at issued
      split at issued
      · cases issued
      · cases issued
        exact sameView world _ world.executor world.faults
  | cancel debounce =>
      simp only [issue, Except.map] at issued
      split at issued
      · cases issued
      · cases issued
        exact sameView world _ world.executor world.faults

/-- What does not depend on timers, executor and faults is kept by all commands. -/
theorem view_issueAll
    (world : World)
    (commands : List Command) :
    view (world.issueAll commands) = view world := by
  induction commands generalizing world with
  | nil =>
      rfl
  | cons command rest inductionHypothesis =>
      simp only [issueAll]
      cases issued : world.issue command with
      | error reason =>
          exact sameView world world.timers world.executor _
      | ok next =>
          exact (inductionHypothesis next).trans (view_issue view sameView issued)

end View

section React

variable (world : World) (reaction : Reaction)

@[simp] theorem state_react : (world.react reaction).state = reaction.1 :=
  view_issueAll World.state (fun _ _ _ _ => rfl) _ _

@[simp] theorem now_react : (world.react reaction).now = world.now :=
  view_issueAll World.now (fun _ _ _ _ => rfl) _ _

@[simp] theorem config_react : (world.react reaction).config = world.config :=
  view_issueAll World.config (fun _ _ _ _ => rfl) _ _

@[simp] theorem isAlive_react : (world.react reaction).isAlive = world.isAlive :=
  view_issueAll World.isAlive (fun _ _ _ _ => rfl) _ _

@[simp] theorem history_react : (world.react reaction).history = world.history :=
  view_issueAll World.history (fun _ _ _ _ => rfl) _ _

end React

/-- Taking over a state alone does not touch the slots. -/
theorem wellFormed_withState
    {world : World}
    (wellFormed : WellFormed world)
    (state : State) :
    WellFormed { world with state } :=
  ⟨wellFormed.timerSlots, wellFormed.switchSlot, wellFormed.ownSlot⟩

/-- A reaction is a new state and then its commands. -/
theorem react_eq_foldl
    {world : World}
    (wellFormed : WellFormed world)
    (reaction : Reaction) :
    world.react reaction =
      reaction.2.foldl carryOut { world with state := reaction.1 } :=
  issueAll_eq_foldl (wellFormed_withState wellFormed reaction.1) reaction.2

/-- A reaction leaves all slots in place. -/
theorem wellFormed_react
    {world : World}
    (wellFormed : WellFormed world)
    (reaction : Reaction) :
    WellFormed (world.react reaction) := by
  rw [react_eq_foldl wellFormed]
  exact wellFormed_foldl_carryOut (wellFormed_withState wellFormed reaction.1) reaction.2

/-- A reaction changes the alarm of a debounce by its commands in order. -/
theorem alarm?_react
    {world : World}
    (wellFormed : WellFormed world)
    (reaction : Reaction)
    (debounce : Debounce) :
    (world.react reaction).alarm? debounce =
      reaction.2.foldl
        (fun alarm? command =>
          command.alarmAfter? debounce (world.deadline debounce) alarm?)
        (world.alarm? debounce) := by
  rw [react_eq_foldl wellFormed]
  exact
    alarm?_foldl_carryOut (wellFormed_withState wellFormed reaction.1) reaction.2 debounce

/-- After a reaction a switch is queued if one was queued or the reaction requests one. -/
theorem isSwitchQueued_react
    {world : World}
    (wellFormed : WellFormed world)
    (reaction : Reaction) :
    (world.react reaction).isSwitchQueued =
      (decide (.requestSwitch ∈ reaction.2) || world.isSwitchQueued) := by
  rw [react_eq_foldl wellFormed]
  exact isSwitchQueued_foldl_carryOut (wellFormed_withState wellFormed reaction.1) reaction.2

/-- A reaction does not touch the worker. -/
theorem worker_react
    {world : World}
    (wellFormed : WellFormed world)
    (reaction : Reaction) :
    (world.react reaction).executor.worker = world.executor.worker := by
  rw [react_eq_foldl wellFormed]
  exact worker_foldl_carryOut { world with state := reaction.1 } reaction.2

end World

end RefreshRate.Controller
