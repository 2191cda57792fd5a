import RefreshRate.Proofs.Controller.Handles
import RefreshRate.Proofs.Controller.Routes
import RefreshRate.Proofs.Timer.Sweep

namespace RefreshRate

/-!
# Silence after the drop

What was armed and queued when a controller is dropped stays where it is.  The alarms still
fire, each of them once and at its time, and the worker still takes the switch that is
queued.  But the controller is not there any more: neither of them does anything, so nothing
is switched, applied, armed, queued or reported from then on.
-/

namespace Timer

variable {Work : Type}

namespace Host

/-- The timers alone, whose works do nothing. -/
def bare : Host (Table Work) Work where
  table := id
  withTable _ table := table
  run _ _ table := table

/-- To keep watch, and then to keep watch from there on, is to keep watch. -/
theorem Watched.trans
    {World : Type}
    {host : Host World Work}
    {first second now : Nat}
    {world middle final : World}
    {fires later : List (Nat × Firing Work)}
    (watched : Watched host first now world fires middle)
    (onwards : Watched host second (now + first) middle later final) :
    Watched host (first + second) now world (fires ++ later) final := by
  induction watched with
  | ended now world =>
      rw [Nat.zero_add]
      exact onwards
  | @idled remaining now world final fires nothingDue _ inductionHypothesis =>
      rw [Nat.succ_add]
      refine .idled nothingDue (inductionHypothesis ?_)
      rw [Nat.succ_add_eq_add_succ]
      exact onwards
  | @fired remaining now world final firing fires isLeastDue _ inductionHypothesis =>
      rw [Nat.succ_add]
      refine .fired isLeastDue (inductionHypothesis ?_)
      rw [Nat.succ_add_eq_add_succ]
      exact onwards

/-- Timers that are left alone go through one sweep over their agenda. -/
theorem sweep_of_watched_bare
    {milliseconds now : Nat}
    {table final : Table Work}
    {fires : List (Nat × Firing Work)}
    (watched : Watched bare milliseconds now table fires final) :
    fires = table.firesUpTo (now + milliseconds) now ∧ table.LeftBy final fires := by
  have isLawful (table replacement : Table Work) :
      bare.table (bare.withTable table replacement) = replacement :=
    rfl
  obtain ⟨swept, sweeps, leftBy⟩ :=
    exists_watched_sweep isLawful milliseconds now table fun _ _ _ _ => rfl
  have recorded := (watched_iff_advance_recording milliseconds now table).mp watched
  have recordedSweep := (watched_iff_advance_recording milliseconds now table).mp sweeps
  cases recorded.symm.trans recordedSweep
  exact ⟨rfl, leftBy⟩

end Host

theorem map_snd_sweep
    (now : Nat)
    (agenda : List (Firing Work)) :
    (sweep now agenda).map Prod.snd = agenda := by
  induction agenda generalizing now with
  | nil =>
      rfl
  | cons firing later inductionHypothesis =>
      exact congrArg (firing :: ·) (inductionHypothesis _)

/-- No slot fires twice in a sweep. -/
theorem Table.nodup_firesUpTo
    (table : Table Work)
    (target now : Nat) :
    ((table.firesUpTo target now).map (·.2.handle)).Nodup := by
  have distinct : table.agenda.Pairwise fun first second => first.handle ≠ second.handle :=
    ((List.perm_insertionSort Firing.NotAfter table.armedSlots).pairwise_iff Ne.symm).mpr
      table.pairwise_armedSlots
  have handles : ((sweep now table.agenda).map (·.2.handle)).Nodup := by
    rw [← Function.comp_def Firing.handle, ← List.map_map, map_snd_sweep]
    exact List.pairwise_map.mpr distinct
  exact handles.sublist (List.filter_sublist.map _)

end Timer

namespace Controller

namespace Occurrence

/-- The time that passes in an occurrence. -/
def milliseconds : Occurrence → Nat
  | .tick =>
      1
  | .advance milliseconds =>
      milliseconds
  | .receive _ | .work | .settle =>
      0

/-- The time that passes in several occurrences. -/
def duration : List Occurrence → Nat
  | [] =>
      0
  | occurrence :: rest =>
      occurrence.milliseconds + duration rest

end Occurrence

namespace World

variable {world middle next : World}

/-- The alarms that fire in an occurrence, and their times. -/
def firesIn (world : World) : Occurrence → List (Nat × Timer.Firing Debounce)
  | .tick =>
      ((world.timers.takeDue? (world.now + 1)).map fun taken => (world.now + 1, taken.1)).toList
  | .advance milliseconds =>
      (host.recording.advance (world.now + milliseconds) world.now (world, [])).2
  | .receive _ | .work | .settle =>
      []

/-- The alarms that fire, and their times. -/
def fires
    (route : Route)
    (world : World) :
    List Occurrence → List (Nat × Timer.Firing Debounce)
  | [] =>
      []
  | occurrence :: rest =>
      world.firesIn occurrence ++ (world.meet route occurrence).fires route rest

/-- At most the clock, the timers and the worker have gone on, without the controller. -/
structure Untouched (world next : World) : Prop where
  same :
    next = { world with now := next.now, timers := next.timers, executor := next.executor }
  executor : ∃ steps, next.executor = world.executor.run (List.replicate steps .work)

/-- Some milliseconds have passed without the controller, in which some alarms have fired. -/
structure Elapsed
    (world : World)
    (milliseconds : Nat)
    (fires : List (Nat × Timer.Firing Debounce))
    (next : World) : Prop extends Untouched world next where
  now : next.now = world.now + milliseconds
  timers : Timer.Host.Watched .bare milliseconds world.now world.timers fires next.timers

theorem Untouched.trans
    (untouched : Untouched world middle)
    (later : Untouched middle next) :
    Untouched world next := by
  obtain ⟨steps, stepped⟩ := untouched.executor
  obtain ⟨more, steppedOn⟩ := later.executor
  refine ⟨?_, steps + more, ?_⟩
  · rw [later.same, untouched.same]
  · rw [steppedOn, stepped, List.replicate_add, Executor.run_append]

theorem Untouched.isAlive_eq (untouched : Untouched world next) : next.isAlive = world.isAlive := by
  rw [untouched.same]

namespace Elapsed

variable
  {first second : Nat}
  {earlier later : List (Nat × Timer.Firing Debounce)}

theorem trans
    (elapsed : Elapsed world first earlier middle)
    (onwards : Elapsed middle second later next) :
    Elapsed world (first + second) (earlier ++ later) next where
  toUntouched := elapsed.toUntouched.trans onwards.toUntouched
  now := by rw [onwards.now, elapsed.now, Nat.add_assoc]
  timers := by
    have onwardsTimers := onwards.timers
    rw [elapsed.now] at onwardsTimers
    exact elapsed.timers.trans onwardsTimers

/-- Steps of the worker take no time. -/
theorem of_steps
    (steps : Nat)
    (stepped :
      next = { world with executor := world.executor.run (List.replicate steps .work) }) :
    Elapsed world 0 [] next := by
  subst stepped
  exact
    { same := rfl
      executor := ⟨steps, rfl⟩
      now := rfl
      timers := .ended world.now world.timers }

end Elapsed

section Dropped

variable (dropped : world.isAlive = false)

include dropped

theorem receive_of_dropped (signal : Signal) : world.receive signal = world := by
  simp only [receive, dropped, Bool.false_eq_true, if_false]

theorem expire_of_dropped (debounce : Debounce) : world.expire debounce = world := by
  simp only [expire, dropped, Bool.false_eq_true, if_false]

theorem switch_of_dropped : world.switch = world := by
  simp only [switch, dropped, Bool.false_eq_true, if_false]

/-- The worker does nothing with the switch that it has taken, and goes on. -/
theorem step?_of_dropped :
    crew.step? world =
      (Executor.bare.step? world.executor).map fun executor => { world with executor } := by
  rcases crew.step_cases world with ⟨cursor, slotName, work, running, finishes⟩ | ⟨-, goesOn⟩
  · have isRunning : world.executor.worker = .running cursor slotName work := running
    have done : crew.run cursor slotName work world = world := switch_of_dropped dropped
    rw [finishes, Executor.step?_bare, isRunning, Executor.Crew.finish, done]
    rfl
  · exact goesOn

theorem exists_settle_of_dropped :
    ∃ steps,
      world.settle =
        { world with executor := world.executor.run (List.replicate steps .work) } := by
  unfold settle Executor.Crew.settle
  fun_induction Executor.Crew.settleUntil crew (fun _ => false) world with
  | case1 world reached =>
      cases reached
  | case2 world notReached resting =>
      exact ⟨0, rfl⟩
  | case3 world notReached next stepped inductionHypothesis =>
      rw [step?_of_dropped dropped] at stepped
      obtain ⟨executor, moved, rfl⟩ := Option.map_eq_some_iff.mp stepped
      have isMove : world.executor.move .work = executor := by
        rw [Executor.move, moved, Option.getD_some]
      obtain ⟨steps, settled⟩ := inductionHypothesis dropped
      refine ⟨steps + 1, ?_⟩
      rw [settled, ← isMove]
      rfl

theorem deliver_of_dropped
    (route : Route)
    (signal : Signal) :
    world.deliver signal route = world := by
  rw [deliver_eq_foldl_heardOf]
  exact
    List.foldlRecOn (motive := (· = world)) _ _ rfl
      fun _ same signal _ => by rw [same, receive_of_dropped dropped]

end Dropped

/-- Watching a world without its controller is watching its timers alone. -/
theorem untouched_of_watched
    {milliseconds now : Nat}
    {fires : List (Nat × Timer.Firing Debounce)}
    (watched : Timer.Host.Watched host milliseconds now world fires next)
    (dropped : world.isAlive = false) :
    Untouched world next ∧
      Timer.Host.Watched .bare milliseconds now world.timers fires next.timers := by
  induction watched with
  | ended now world =>
      exact ⟨⟨rfl, 0, rfl⟩, .ended now world.timers⟩
  | idled nothingDue onwards inductionHypothesis =>
      obtain ⟨untouched, alone⟩ := inductionHypothesis dropped
      exact ⟨untouched, .idled nothingDue alone⟩
  | @fired remaining now world final firing fires isLeastDue onwards inductionHypothesis =>
      let taken : World :=
        { world with now := now + 1, timers := world.timers.replace firing.handle none }
      have takenDropped : taken.isAlive = false := dropped
      have nothingDone :
          host.run (now + 1) firing
              (host.withTable world ((host.table world).replace firing.handle none)) =
            taken.settle :=
        congrArg settle (expire_of_dropped takenDropped firing.alarm.work)
      obtain ⟨steps, settled⟩ := exists_settle_of_dropped takenDropped
      rw [nothingDone, settled] at inductionHypothesis
      obtain ⟨untouched, alone⟩ := inductionHypothesis dropped
      have woken :
          Untouched world
            { taken with executor := world.executor.run (List.replicate steps .work) } :=
        ⟨rfl, steps, rfl⟩
      exact ⟨woken.trans untouched, .fired isLeastDue alone⟩

theorem elapsed_advance
    (dropped : world.isAlive = false)
    (milliseconds : Nat) :
    Elapsed world milliseconds (world.firesIn (.advance milliseconds))
      (world.advance milliseconds) := by
  obtain ⟨fires, recorded, -⟩ :=
    host.exists_slept (world.now + milliseconds) world.now world []
  have sameFires : world.firesIn (.advance milliseconds) = fires := congrArg Prod.snd recorded
  have watched := (Timer.Host.watched_iff_advance_recording _ _ _).mpr recorded
  obtain ⟨untouched, alone⟩ := untouched_of_watched watched dropped
  rw [sameFires]
  refine ⟨⟨?_, untouched.executor⟩, rfl, alone⟩
  rw [advance, untouched.same]

theorem elapsed_tick
    (dropped : world.isAlive = false) :
    Elapsed world 1 (world.firesIn .tick) (world.beat .tick) := by
  have ticked : world.beat .tick = world.later.fireDue := rfl
  rw [ticked]
  cases taken : world.timers.takeDue? (world.now + 1) with
  | none =>
      have nothingDue : world.later.due? = none := Option.map_eq_none_iff.mpr taken
      rw [fireDue_of_due?_eq_none nothingDue, firesIn, taken]
      refine ⟨⟨rfl, 0, rfl⟩, rfl, .idled ?_ (.ended _ _)⟩
      exact fun _ _ armed => Timer.Table.lt_deadline_of_takeDue?_eq_none armed taken
  | some taking =>
      obtain ⟨firing, timers⟩ := taking
      obtain ⟨-, -, rfl⟩ := Timer.Table.takeDue?_eq_some taken
      let woken : World :=
        { world.later with timers := world.timers.replace firing.handle none }
      have wokenDropped : woken.isAlive = false := dropped
      have fired : world.later.fireDue = woken := by
        have takenLater :
            world.later.timers.takeDue? world.later.now =
              some (firing, world.timers.replace firing.handle none) :=
          taken
        simp only [fireDue, takenLater]
        exact expire_of_dropped wokenDropped firing.alarm.work
      rw [fired, firesIn, taken]
      refine ⟨⟨rfl, 0, rfl⟩, rfl, .fired ?_ (.ended _ _)⟩
      exact Timer.Table.isLeastDue_of_takeDue?_eq_some taken

/-- Nothing that happens touches a controller that has been dropped. -/
theorem elapsed_meet
    (dropped : world.isAlive = false)
    (route : Route)
    (occurrence : Occurrence) :
    Elapsed world occurrence.milliseconds (world.firesIn occurrence)
      (world.meet route occurrence) := by
  cases occurrence with
  | receive signal =>
      have nothingHeard : world.meet route (.receive signal) = world :=
        deliver_of_dropped dropped route signal
      rw [nothingHeard]
      exact .of_steps 0 rfl
  | work =>
      exact .of_steps 1 (crew.getD_step? rfl (step?_of_dropped dropped))
  | tick =>
      exact elapsed_tick dropped
  | settle =>
      obtain ⟨steps, settled⟩ := exists_settle_of_dropped dropped
      exact .of_steps steps settled
  | advance milliseconds =>
      exact elapsed_advance dropped milliseconds

theorem elapsed_meetAll
    (dropped : world.isAlive = false)
    (route : Route)
    (occurrences : List Occurrence) :
    Elapsed world (Occurrence.duration occurrences) (world.fires route occurrences)
      (world.meetAll route occurrences) := by
  induction occurrences generalizing world with
  | nil =>
      exact .of_steps 0 rfl
  | cons occurrence rest inductionHypothesis =>
      have first := elapsed_meet dropped route occurrence
      exact first.trans (inductionHypothesis (first.isAlive_eq.trans dropped))

/--
Wherever a controller is dropped, and whatever happens then: nothing is switched or applied
any more, its state stays as it is, and no unknown handle is met.  What was armed fires in one
sweep, each alarm at its time and no slot twice; only what has fired has left its slot, so
nothing is armed again.  The executor goes on by steps of its worker alone, so nothing is
queued.
-/
theorem meetAll_drop_is_silent
    (config : Config)
    (incidents : List Incident)
    (route : Route)
    (occurrences : List Occurrence) :
    let world := (create config).undergoAll incidents
    let fires := world.drop.fires route occurrences
    let after := world.drop.meetAll route occurrences
    after.history = world.history ∧
      after.state = world.state ∧
      after.faults = [] ∧
      after.now = world.now + Occurrence.duration occurrences ∧
      fires = world.timers.firesUpTo after.now world.now ∧
      (fires.map (·.2.handle)).Nodup ∧
      world.timers.LeftBy after.timers fires ∧
      ∃ steps, after.executor = world.executor.run (List.replicate steps .work) := by
  intro world fires after
  have elapsed : Elapsed world.drop (Occurrence.duration occurrences) fires after :=
    elapsed_meetAll rfl route occurrences
  obtain ⟨swept, leftBy⟩ := Timer.Host.sweep_of_watched_bare elapsed.timers
  have noFaults : world.faults = [] := (knowsHandles_undergoAll config incidents).noFaults
  have sweptUpToNow : fires = world.timers.firesUpTo after.now world.now := by
    rw [elapsed.now]
    exact swept
  refine ⟨?_, ?_, ?_, elapsed.now, sweptUpToNow, ?_, leftBy, elapsed.executor⟩
  · rw [elapsed.same]
    rfl
  · rw [elapsed.same]
    rfl
  · rw [elapsed.same]
    exact noFaults
  · rw [sweptUpToNow]
    exact world.timers.nodup_firesUpTo after.now world.now

end World

end Controller

end RefreshRate
