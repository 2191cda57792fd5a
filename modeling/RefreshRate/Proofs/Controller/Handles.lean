import RefreshRate.Proofs.Controller.Settled
import RefreshRate.Proofs.Executor.Course

namespace RefreshRate.Controller

/-!
# The handles of a controller

A controller is created with four slots, and these are all that it ever uses.  It shares
the timers and the executor with others, who may add slots of their own at any time, and it
may be dropped while alarms are armed and switches are queued.  But slots are only ever
added, so no signal, no debounce and no switch meets an unknown handle.
-/

/-- What can happen to a controller and to what it shares with others. -/
inductive Incident where
  | move (move : Move)
  | publish (signal : Signal)
  | settle
  | advance (milliseconds : Nat)
  | start
  | drop
  /-- Somebody else adds a slot for a timer. -/
  | addTimer (name : String)
  /-- Somebody else adds a slot for works. -/
  | addWork (name : String)

namespace World

variable {world next : World}

def undergo (world : World) : Incident → World
  | .move move =>
      world.step move
  | .publish signal =>
      world.publish signal
  | .settle =>
      world.settle
  | .advance milliseconds =>
      world.advance milliseconds
  | .start =>
      world.start
  | .drop =>
      world.drop
  | .addTimer name =>
      { world with timers := (world.timers.create name).2 }
  | .addWork name =>
      { world with executor := (world.executor.create name).2 }

def undergoAll
    (world : World)
    (incidents : List Incident) :
    World :=
  incidents.foldl undergo world

/-- The slots of the controller are there, and it has never met an unknown handle. -/
structure KnowsHandles (world : World) : Prop where
  timerSlots : Debounce.all.length ≤ world.timers.size
  switchSlot : switchHandle < world.executor.size
  noFaults : world.faults = []

/-- Slots may be added, but none is taken away. -/
theorem KnowsHandles.mono
    (knowsHandles : KnowsHandles world)
    (moreTimers : world.timers.size ≤ next.timers.size)
    (moreSlots : world.executor.size ≤ next.executor.size)
    (sameFaults : next.faults = world.faults) :
    KnowsHandles next where
  timerSlots := Nat.le_trans knowsHandles.timerSlots moreTimers
  switchSlot := Nat.lt_of_lt_of_le knowsHandles.switchSlot moreSlots
  noFaults := sameFaults.trans knowsHandles.noFaults

theorem knowsHandles_create (config : Config) : KnowsHandles (create config) where
  timerSlots := Nat.le_refl 3
  switchSlot := Nat.zero_lt_one
  noFaults := rfl

/-- Where a debounce has its slot, its alarm can be replaced. -/
theorem KnowsHandles.put_timers
    (knowsHandles : KnowsHandles world)
    (debounce : Debounce)
    (alarm? : Option (Timer.Alarm Debounce)) :
    world.timers.put debounce.handle alarm? = .ok (world.timers.replace debounce.handle alarm?) :=
  if_pos (Nat.lt_of_lt_of_le debounce.handle_lt_length_all knowsHandles.timerSlots)

/-- A controller that knows its handles can carry out every command. -/
theorem KnowsHandles.exists_issue
    (knowsHandles : KnowsHandles world)
    (command : Command) :
    ∃ next, world.issue command = .ok next ∧ KnowsHandles next := by
  cases command with
  | requestSwitch =>
      have accepts :
          world.executor.put switchHandle () =
            .ok { world.executor.replace switchHandle (some ()) with isPending := true } :=
        if_pos knowsHandles.switchSlot
      simp only [issue, accepts, Except.map, Except.ok.injEq, exists_eq_left']
      refine knowsHandles.mono (Nat.le_refl _) ?_ rfl
      exact Nat.le_of_eq (Executor.size_replace world.executor switchHandle (some ())).symm
  | arm debounce =>
      simp only [issue, knowsHandles.put_timers, Except.map, Except.ok.injEq, exists_eq_left']
      refine knowsHandles.mono ?_ (Nat.le_refl _) rfl
      exact Nat.le_of_eq (Timer.Table.size_replace ..).symm
  | cancel debounce =>
      simp only [issue, knowsHandles.put_timers, Except.map, Except.ok.injEq, exists_eq_left']
      refine knowsHandles.mono ?_ (Nat.le_refl _) rfl
      exact Nat.le_of_eq (Timer.Table.size_replace ..).symm

theorem KnowsHandles.issueAll
    (knowsHandles : KnowsHandles world)
    (commands : List Command) :
    KnowsHandles (world.issueAll commands) := by
  induction commands generalizing world with
  | nil =>
      exact knowsHandles
  | cons command rest inductionHypothesis =>
      obtain ⟨next, issued, nextKnowsHandles⟩ := knowsHandles.exists_issue command
      simp only [World.issueAll, issued]
      exact inductionHypothesis nextKnowsHandles

theorem KnowsHandles.react
    (knowsHandles : KnowsHandles world)
    (reaction : Reaction) :
    KnowsHandles (world.react reaction) := by
  have withState : KnowsHandles { world with state := reaction.1 } :=
    knowsHandles.mono (Nat.le_refl _) (Nat.le_refl _) rfl
  exact withState.issueAll reaction.2

theorem KnowsHandles.receive
    (knowsHandles : KnowsHandles world)
    (signal : Signal) :
    KnowsHandles (world.receive signal) := by
  unfold World.receive
  split
  · exact knowsHandles.react _
  · exact knowsHandles

theorem KnowsHandles.expire
    (knowsHandles : KnowsHandles world)
    (debounce : Debounce) :
    KnowsHandles (world.expire debounce) := by
  unfold World.expire
  split
  · exact knowsHandles.react _
  · exact knowsHandles

theorem KnowsHandles.fireDue
    (knowsHandles : KnowsHandles world) :
    KnowsHandles world.fireDue := by
  unfold World.fireDue
  split
  · exact knowsHandles
  · rename_i firing rest taken
    obtain ⟨-, -, rfl⟩ := Timer.Table.takeDue?_eq_some taken
    have withoutAlarm :
        KnowsHandles { world with timers := world.timers.replace firing.handle none } := by
      refine knowsHandles.mono ?_ (Nat.le_refl _) rfl
      exact Nat.le_of_eq (Timer.Table.size_replace ..).symm
    exact withoutAlarm.expire firing.alarm.work

theorem faults_switch (world : World) : world.switch.faults = world.faults := by
  unfold switch
  split
  · rfl
  · rfl

/-- A step of the worker, in which it may do a switch, neither adds slots nor uses any. -/
theorem KnowsHandles.work
    (knowsHandles : KnowsHandles world) :
    KnowsHandles (world.step .work) := by
  rcases crew.step_cases world with
    ⟨cursor, slotName, work, -, finishes⟩ | ⟨-, goesOn⟩
  · have isFinish : world.step .work = crew.finish cursor slotName work world := by
      rw [World.step, finishes, Option.getD_some]
    rw [isFinish]
    refine knowsHandles.mono ?_ ?_ (faults_switch world)
    · exact Nat.le_of_eq (congrArg Timer.Table.size (timers_switch world)).symm
    · exact Nat.le_of_eq (congrArg Executor.size (executor_switch world)).symm
  · have isMove :
        world.step .work = { world with executor := world.executor.move .work } :=
      crew.getD_step? rfl goesOn
    rw [isMove]
    refine knowsHandles.mono (Nat.le_refl _) ?_ rfl
    exact Executor.size_le_move world.executor .work

theorem KnowsHandles.step
    (knowsHandles : KnowsHandles world)
    (move : Move) :
    KnowsHandles (world.step move) := by
  cases move with
  | receive signal =>
      exact knowsHandles.receive signal
  | elapse milliseconds =>
      exact knowsHandles.mono (Nat.le_refl _) (Nat.le_refl _) rfl
  | fire =>
      exact knowsHandles.fireDue
  | work =>
      exact knowsHandles.work

theorem KnowsHandles.of_leads
    {signals : List Signal}
    (knowsHandles : KnowsHandles world)
    (leads : Leads world signals next) :
    KnowsHandles next := by
  obtain ⟨moves, -, rfl⟩ := leads
  exact
    List.foldlRecOn (motive := KnowsHandles) moves World.step knowsHandles
      fun _ before move _ => before.step move

theorem KnowsHandles.undergo
    (knowsHandles : KnowsHandles world)
    (incident : Incident) :
    KnowsHandles (world.undergo incident) := by
  cases incident with
  | move move =>
      exact knowsHandles.step move
  | publish signal =>
      exact
        List.foldlRecOn (motive := KnowsHandles) _ _ knowsHandles
          fun _ before _ _ => before.receive signal
  | settle =>
      exact knowsHandles.of_leads (leads_settle world)
  | advance milliseconds =>
      exact knowsHandles.of_leads (leads_advance world milliseconds)
  | start | drop =>
      exact knowsHandles.mono (Nat.le_refl _) (Nat.le_refl _) rfl
  | addTimer name =>
      refine knowsHandles.mono ?_ (Nat.le_refl _) rfl
      exact Nat.le.intro (Timer.Table.size_create world.timers name).symm
  | addWork name =>
      refine knowsHandles.mono (Nat.le_refl _) ?_ rfl
      exact Executor.size_le_move world.executor (.create name)

/-- Whatever happens, a controller knows the handles that it uses. -/
theorem knowsHandles_undergoAll
    (config : Config)
    (incidents : List Incident) :
    KnowsHandles ((create config).undergoAll incidents) :=
  List.foldlRecOn (motive := KnowsHandles) incidents undergo (knowsHandles_create config)
    fun _ knowsHandles incident _ => knowsHandles.undergo incident

end World

end RefreshRate.Controller
