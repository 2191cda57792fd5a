import Mathlib.Logic.Function.Iterate
import RefreshRate.Proofs.Controller.Settled
import RefreshRate.Proofs.Executor.Attended

namespace RefreshRate.Controller.World

/-!
# The worker gets to every switch

The worker of a controller that operates is never told to stop, and it leaves no
request behind.  So when the executor has settled no switch is on its way, and the
only thing that has changed besides the executor is what the switches have done that
were on their way: the one that was running and the one that was queued.
-/

variable {world next : World} {move : Move}

/-- A controller that operates, with a worker that will find whatever is queued. -/
structure Ready (world : World) : Prop extends Operating world where
  isAttended : world.executor.IsAttended
  isServing : world.executor.IsServing

theorem ready_create (config : Config) : Ready (create config) where
  toOperating := operating_create config
  isAttended := by
    intro handle queued
    obtain ⟨work, found⟩ := Option.isSome_iff_exists.mp queued
    obtain ⟨slot, present, holds⟩ := Option.bind_eq_some_iff.mp found
    have isNew : slot = ⟨switchSlotName, none⟩ :=
      List.mem_singleton.mp (List.mem_of_getElem? present)
    rw [isNew] at holds
    cases holds
  isServing := ⟨rfl, by simp [create, Executor.create]⟩

namespace Ready

/-- A command leaves the worker as it is, and a request raises the flag for another pass. -/
theorem carryOut
    (ready : Ready world)
    (command : Command) :
    Ready (world.carryOut command) := by
  have operating : Operating (world.carryOut command) := by
    refine ⟨wellFormed_carryOut ready.toWellFormed command, ?_⟩
    cases command <;> exact ready.isAlive
  cases command with
  | requestSwitch =>
      refine ⟨operating, Executor.isAttended_of_isPending rfl, ?_⟩
      exact ⟨ready.isServing.notStopping, ready.isServing.notExited⟩
  | arm debounce =>
      exact ⟨operating, ready.isAttended, ready.isServing⟩
  | cancel debounce =>
      exact ⟨operating, ready.isAttended, ready.isServing⟩

theorem react
    (ready : Ready world)
    (reaction : Reaction) :
    Ready (world.react reaction) := by
  rw [react_eq_foldl ready.toWellFormed]
  have withState : Ready { world with state := reaction.1 } :=
    ⟨⟨wellFormed_withState ready.toWellFormed reaction.1, ready.isAlive⟩, ready.isAttended,
      ready.isServing⟩
  exact
    List.foldlRecOn (motive := Ready) reaction.2 World.carryOut withState
      fun _ before command _ => before.carryOut command

/-- A step of the worker leaves nothing behind, and it does not end the work. -/
theorem work
    (ready : Ready world)
    (stepped : crew.step? world = some next) :
    Ready next := by
  have worked : Worked world next := worked_of_step?_eq_some ready.toWellFormed stepped
  have operating : Operating next := (Stepped.worked worked).operating ready.toOperating
  have sameExecutor (cursor : Nat) (slotName : String) (work : SwitchRequest) :
      crew.executor (crew.run cursor slotName work world) = world.executor :=
    executor_switch world
  have isAttended : next.executor.IsAttended := by
    refine Executor.Crew.isAttended_of_step?_eq_some ready.isAttended ?_ stepped
    intro cursor slotName work running
    rw [sameExecutor]
    exact ⟨ready.isAttended, running⟩
  have isServing : next.executor.IsServing := by
    refine Executor.Crew.isServing_of_step?_eq_some ready.isServing ?_ stepped
    intro cursor slotName work
    rw [sameExecutor]
    exact ready.isServing.notStopping
  exact ⟨operating, isAttended, isServing⟩

theorem step
    (ready : Ready world)
    (move : Move) :
    Ready (world.step move) := by
  cases move with
  | work =>
      simp only [World.step]
      cases stepped : crew.step? world with
      | none =>
          exact ready
      | some next =>
          exact ready.work stepped
  | elapse milliseconds =>
      have operating := (stepped_step ready.toOperating (.elapse milliseconds)).operating
        ready.toOperating
      exact ⟨operating, ready.isAttended, ready.isServing⟩
  | receive signal =>
      simp only [World.step, receive_of_operating ready.toOperating]
      exact ready.react _
  | fire =>
      simp only [World.step]
      cases due : world.due? with
      | none =>
          rw [fireDue_of_due?_eq_none due]
          exact ready
      | some debounce =>
          rw [fireDue_of_due?_eq_some ready.toOperating due]
          exact (ready.carryOut (.cancel debounce)).react _

theorem run
    (ready : Ready world)
    (moves : List Move) :
    Ready (world.run moves) :=
  List.foldlRecOn (motive := Ready) moves World.step ready
    fun _ before move _ => before.step move

end Ready

/-- When the worker has nothing to do, no switch is on its way. -/
theorem Ready.isSwitching_eq_false
    (ready : Ready world)
    (nothingToDo : crew.step? world = none) :
    world.isSwitching = false := by
  have emptied : world.executor.work? switchHandle = none :=
    Executor.Crew.work?_eq_none_of_step?_eq_none ready.isAttended ready.isServing nothingToDo _
  have notRunning : world.executor.isRunning = false :=
    Executor.Crew.isRunning_eq_false_of_step?_eq_none nothingToDo
  simp only [isSwitching, isSwitchQueued, emptied, notRunning, Option.isSome_none, Bool.or_self]

theorem Ready.of_leads
    {signals : List Signal}
    (ready : Ready world)
    (leads : Leads world signals next) :
    Ready next := by
  obtain ⟨moves, -, rfl⟩ := leads
  exact ready.run moves

/-- When the executor has settled, no switch is on its way. -/
theorem Ready.isSwitching_settle
    (ready : Ready world) :
    world.settle.isSwitching = false :=
  (ready.of_leads (leads_settle world)).isSwitching_eq_false
    (Executor.Crew.step?_settle crew world)

/-- A worker that has taken a switch does it in its next step. -/
theorem exists_step?_eq_switch
    (running : world.executor.isRunning = true) :
    ∃ executor,
      crew.step? world = some { world.switch with executor } ∧
        executor.work? switchHandle = world.executor.work? switchHandle ∧
          executor.isRunning = false := by
  have executorIs : crew.executor world = world.executor := rfl
  unfold Executor.isRunning at running
  split at running
  · rename_i cursor slotName work working
    have afterSwitch : crew.executor (crew.run cursor slotName work world) = world.executor :=
      executor_switch world
    refine ⟨{ world.executor with worker := .scanning (cursor + 1) }, ?_, rfl, rfl⟩
    simp only [Executor.Crew.step?, executorIs, working, Executor.Crew.finish, afterSwitch]
    rfl
  · cases running

/-- The worker has no switch in its hands when it takes one. -/
theorem isRunning_eq_false_of_takes
    (stepped : crew.step? world = some next)
    (isRunning : next.executor.isRunning = true) :
    world.executor.isRunning = false := by
  by_contra wasRunning
  obtain ⟨executor, switched, -, nowResting⟩ :=
    exists_step?_eq_switch (eq_true_of_ne_false wasRunning)
  cases stepped.symm.trans switched
  cases isRunning.symm.trans nowResting

/-- The number of switches on their way: one may be running and another one queued. -/
def switchesOnTheirWay (world : World) : Nat :=
  world.executor.isRunning.toNat + world.isSwitchQueued.toNat

theorem switchesOnTheirWay_eq_zero_iff :
    world.switchesOnTheirWay = 0 ↔ world.isSwitching = false := by
  rw [switchesOnTheirWay, isSwitching, Nat.add_eq_zero_iff, Bool.toNat_eq_zero,
    Bool.toNat_eq_zero, Bool.or_eq_false_iff, and_comm]

/-- A switch and the executor do not get into each other's way. -/
theorem switch_withExecutor
    (world : World)
    (executor : Executor SwitchRequest) :
    ({ world with executor } : World).switch = { world.switch with executor } := by
  unfold switch
  split
  · rfl
  · rfl

theorem iterate_switch_withExecutor
    (count : Nat)
    (world : World)
    (executor : Executor SwitchRequest) :
    switch^[count] { world with executor } = { switch^[count] world with executor } := by
  induction count generalizing world with
  | zero =>
      rfl
  | succ count inductionHypothesis =>
      rw [Function.iterate_succ_apply, Function.iterate_succ_apply, switch_withExecutor]
      exact inductionHypothesis world.switch

/--
When the executor settles, what has changed besides the executor is what the switches
have done that were on their way.
-/
theorem Ready.exists_settle_eq_iterate
    (ready : Ready world) :
    ∃ executor,
      world.settle = { switch^[world.switchesOnTheirWay] world with executor } := by
  unfold World.settle Executor.Crew.settle
  fun_induction Executor.Crew.settleUntil crew (fun _ => false) world with
  | case1 world reached =>
      cases reached
  | case2 world notReached resting =>
      refine ⟨world.executor, ?_⟩
      rw [switchesOnTheirWay_eq_zero_iff.mpr (ready.isSwitching_eq_false resting)]
      rfl
  | case3 world notReached next stepped inductionHypothesis =>
      have worked : Worked world next := worked_of_step?_eq_some ready.toWellFormed stepped
      obtain ⟨last, settled⟩ := inductionHypothesis (ready.work stepped)
      refine ⟨last, settled.trans ?_⟩
      cases worked with
      | goesOn executor sameSize sameQueue sameRunning =>
          have sameCount :
              ({ world with executor } : World).switchesOnTheirWay = world.switchesOnTheirWay := by
            simp only [switchesOnTheirWay, isSwitchQueued, sameQueue, sameRunning]
          rw [sameCount, iterate_switch_withExecutor]
      | takes executor sameSize wasQueued nowEmpty isRunning =>
          have notRunning := isRunning_eq_false_of_takes stepped isRunning
          have sameCount :
              ({ world with executor } : World).switchesOnTheirWay = world.switchesOnTheirWay := by
            simp only [switchesOnTheirWay, isSwitchQueued] at wasQueued ⊢
            rw [nowEmpty, isRunning, notRunning, wasQueued]
            rfl
          rw [sameCount, iterate_switch_withExecutor]
      | switches executor sameSize sameQueue wasRunning nowResting =>
          have oneLess :
              world.switchesOnTheirWay =
                ({ world.switch with executor } : World).switchesOnTheirWay + 1 := by
            simp only [switchesOnTheirWay, isSwitchQueued, sameQueue, wasRunning, nowResting,
              Bool.toNat_true, Bool.toNat_false, Nat.zero_add, Nat.add_comm 1]
          rw [oneLess, Function.iterate_succ_apply, iterate_switch_withExecutor]

/-- The world after the switch that is on its way, if there is one. -/
def caughtUp (world : World) : World :=
  if world.isSwitching then world.switch else world

/-- When at most one switch is on its way, it is the only one that is done. -/
theorem Ready.exists_settle_eq_caughtUp
    (ready : Ready world)
    (oneAtMost : world.isSwitchQueued = true → world.executor.isRunning = false) :
    ∃ executor, world.settle = { world.caughtUp with executor } := by
  obtain ⟨executor, settled⟩ := ready.exists_settle_eq_iterate
  refine ⟨executor, settled.trans ?_⟩
  rw [caughtUp]
  split
  · rename_i switching
    have oneOnItsWay : world.switchesOnTheirWay = 1 := by
      rcases Bool.or_eq_true_iff.mp switching with queued | running
      · rw [switchesOnTheirWay, oneAtMost queued, queued]
        rfl
      · have notQueued : world.isSwitchQueued = false := by
          by_contra queued
          have notRunning := oneAtMost (eq_true_of_ne_false queued)
          cases running.symm.trans notRunning
        rw [switchesOnTheirWay, running, notQueued]
        rfl
    rw [oneOnItsWay]
    rfl
  · rename_i notSwitching
    rw [switchesOnTheirWay_eq_zero_iff.mpr (eq_false_of_ne_true notSwitching)]
    rfl

end RefreshRate.Controller.World
