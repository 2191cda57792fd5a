import RefreshRate.Proofs.Controller.Alarm
import RefreshRate.Proofs.Timer.Tick

namespace RefreshRate.Controller

/-!
# Runs on time

In a run on time the clock goes on by single milliseconds, and in each of them the
alarm that is due fires at once, before a signal comes.  Signals and steps of the worker
come in between as they like.  Letting time pass (`World.advance`), which sleeps from one
deadline to the next, is such a run.
-/

/-- What happens to a controller whose timer is on time. -/
inductive Beat where
  | receive (signal : Signal)
  | work
  /-- A millisecond passes, and then the alarm that is due fires. -/
  | tick
  deriving Repr, DecidableEq

namespace Beat

/-- The moves of a beat. -/
def moves : Beat → List Move
  | .receive signal =>
      [.receive signal]
  | .work =>
      [.work]
  | .tick =>
      [.elapse 1, .fire]

/-- Whether a beat brings no signal. -/
def isSilent : Beat → Bool
  | .receive _ =>
      false
  | .work | .tick =>
      true

theorem signal?_eq_none_of_isSilent
    {beat : Beat}
    (isSilent : beat.isSilent = true)
    {move : Move}
    (member : move ∈ beat.moves) :
    move.signal? = none := by
  cases beat with
  | receive signal =>
      cases isSilent
  | work =>
      rcases List.mem_singleton.mp member with rfl
      rfl
  | tick =>
      rcases List.mem_cons.mp member with rfl | isFire
      · rfl
      · rcases List.mem_singleton.mp isFire with rfl
        rfl

end Beat

namespace World

/-- The world when a millisecond has passed and nothing has fired yet. -/
def later (world : World) : World :=
  { world with now := world.now + 1 }

/-- Play one beat. -/
def beat
    (world : World)
    (beat : Beat) :
    World :=
  world.run beat.moves

/-- Play beats one after the other. -/
def play
    (world : World)
    (beats : List Beat) :
    World :=
  beats.foldl World.beat world

@[simp] theorem play_nil (world : World) : world.play [] = world :=
  rfl

@[simp] theorem play_cons
    (world : World)
    (beat : Beat)
    (beats : List Beat) :
    world.play (beat :: beats) = (world.beat beat).play beats :=
  rfl

@[simp] theorem play_append
    (world : World)
    (beats more : List Beat) :
    world.play (beats ++ more) = (world.play beats).play more :=
  List.foldl_append

/-- Beats are a run of their moves. -/
theorem play_eq_run
    (world : World)
    (beats : List Beat) :
    world.play beats = world.run (beats.flatMap Beat.moves) := by
  induction beats generalizing world with
  | nil =>
      rfl
  | cons beat rest inductionHypothesis =>
      rw [play_cons, List.flatMap_cons, run_append]
      exact inductionHypothesis (world.beat beat)

/-- What a beat can do to the world of a controller that operates. -/
inductive Played (world : World) : Beat → World → Prop where
  | received (signal : Signal) :
      Played world (.receive signal) (world.react (world.state.receive signal))
  | worked {next : World} (worked : Worked world next) :
      Played world .work next
  | idled (nothingDue : world.timers.takeDue? (world.now + 1) = none) :
      Played world .tick world.later
  | fired
      (firing : Timer.Firing Debounce)
      (timers : Timer.Table Debounce)
      (taken : world.timers.takeDue? (world.now + 1) = some (firing, timers))
      (own : firing.handle = firing.alarm.work.handle) :
      Played world .tick (world.later.fired firing.alarm.work)

theorem operating_later
    {world : World}
    (operating : Operating world) :
    Operating world.later :=
  ⟨⟨operating.timerSlots, operating.switchSlot, operating.ownSlot⟩, operating.isAlive⟩

theorem played_beat
    {world : World}
    (operating : Operating world)
    (beat : Beat) :
    Played world beat (world.beat beat) := by
  cases beat with
  | receive signal =>
      have received :
          world.beat (.receive signal) = world.react (world.state.receive signal) :=
        receive_of_operating operating signal
      rw [received]
      exact .received signal
  | work =>
      exact .worked (worked_step_work operating.toWellFormed)
  | tick =>
      have ticked : world.beat .tick = world.later.fireDue := rfl
      rw [ticked]
      cases taken : world.timers.takeDue? (world.now + 1) with
      | none =>
          have nothingDue : world.later.due? = none := Option.map_eq_none_iff.mpr taken
          rw [fireDue_of_due?_eq_none nothingDue]
          exact .idled taken
      | some taking =>
          obtain ⟨firing, timers⟩ := taking
          have due : world.later.due? = some firing.alarm.work :=
            Option.map_eq_some_iff.mpr ⟨(firing, timers), taken, rfl⟩
          rw [fireDue_of_due?_eq_some (operating_later operating) due]
          refine .fired firing timers taken ?_
          exact (operating.ownSlot (Timer.Table.takeDue?_eq_some taken).1).symm

theorem operating_play
    {world : World}
    (operating : Operating world)
    (beats : List Beat) :
    Operating (world.play beats) := by
  rw [play_eq_run]
  exact operating_run operating _

/-- The second world comes from the first as time passes, without signals. -/
def Passes
    (world : World)
    (milliseconds : Nat)
    (next : World) :
    Prop :=
  ∃ beats,
    (∀ beat ∈ beats, beat.isSilent = true) ∧
      beats.count .tick = milliseconds ∧
        next = world.play beats

namespace Passes

theorem refl (world : World) : Passes world 0 world :=
  ⟨[], fun _ member => absurd member List.not_mem_nil, rfl, rfl⟩

theorem trans
    {first second third : World}
    {milliseconds more : Nat}
    (firstPasses : Passes first milliseconds second)
    (secondPasses : Passes second more third) :
    Passes first (milliseconds + more) third := by
  obtain ⟨beats, silent, ticks, rfl⟩ := firstPasses
  obtain ⟨laterBeats, laterSilent, laterTicks, rfl⟩ := secondPasses
  refine ⟨beats ++ laterBeats, ?_, ?_, ?_⟩
  · intro beat member
    rcases List.mem_append.mp member with early | late
    · exact silent beat early
    · exact laterSilent beat late
  · rw [List.count_append, ticks, laterTicks]
  · rw [play_append]

theorem work (world : World) : Passes world 0 (world.step .work) :=
  ⟨[.work], by simp [Beat.isSilent], rfl, rfl⟩

theorem tick (world : World) : Passes world 1 world.later.fireDue :=
  ⟨[.tick], by simp [Beat.isSilent], rfl, rfl⟩

end Passes

/-- The executor settles by steps of its worker. -/
theorem passes_settle (world : World) : Passes world 0 world.settle := by
  unfold settle Executor.Crew.settle
  fun_induction Executor.Crew.settleUntil crew (fun _ => false) world with
  | case1 world reached =>
      cases reached
  | case2 world notReached resting =>
      exact .refl world
  | case3 world notReached next stepped inductionHypothesis =>
      have first := Passes.work world
      simp only [World.step, stepped, Option.getD_some] at first
      exact first.trans inductionHypothesis

/-- The worker touches its executor, and nothing else but by a switch. -/
theorem view_of_step?_eq_some
    {View : Type}
    (view : World → View)
    (keepsExecutor : ∀ world executor, view { world with executor } = view world)
    (keepsSwitch : ∀ world, view world.switch = view world)
    {world next : World}
    (stepped : crew.step? world = some next) :
    view next = view world := by
  simp only [Executor.Crew.step?] at stepped
  split at stepped
  · split at stepped
    · cases stepped
      exact keepsExecutor world _
    · split at stepped
      · cases stepped
        exact keepsExecutor world _
      · cases stepped
  · cases stepped
    exact keepsExecutor world _
  · cases stepped
    exact (keepsExecutor world.switch _).trans (keepsSwitch world)
  · cases stepped

theorem view_work
    {View : Type}
    (view : World → View)
    (keepsExecutor : ∀ world executor, view { world with executor } = view world)
    (keepsSwitch : ∀ world, view world.switch = view world)
    (world : World) :
    view (world.step .work) = view world := by
  simp only [step]
  cases stepped : crew.step? world with
  | none =>
      rfl
  | some next =>
      exact view_of_step?_eq_some view keepsExecutor keepsSwitch stepped

theorem now_settle (world : World) : world.settle.now = world.now := by
  unfold settle Executor.Crew.settle
  fun_induction Executor.Crew.settleUntil crew (fun _ => false) world with
  | case1 world reached =>
      cases reached
  | case2 world notReached resting =>
      rfl
  | case3 world notReached next stepped inductionHypothesis =>
      exact
        inductionHypothesis.trans
          (view_of_step?_eq_some World.now (fun _ _ => rfl) now_switch stepped)

theorem now_fireDue (world : World) : world.fireDue.now = world.now := by
  unfold fireDue expire
  split
  · rfl
  · split
    · exact now_react _ _
    · rfl

theorem withNow_eq
    {world : World}
    {now : Nat}
    (clock : world.now = now) :
    { world with now } = world := by
  subst clock
  rfl

/-- At a wake-up an alarm fires and the executor settles, or nothing is due. -/
theorem wakeUp_cases
    (world : World)
    (now : Nat) :
    ({ world with now } : World).due? = none ∧ host.wakeUp now world = world ∨
      host.wakeUp now world = ({ world with now } : World).fireDue.settle := by
  cases taken : world.timers.takeDue? now with
  | none =>
      refine .inl ⟨Option.map_eq_none_iff.mpr taken, ?_⟩
      exact host.wakeUp_of_takeDue?_eq_none taken
  | some taking =>
      refine .inr ?_
      simp only [Timer.Host.wakeUp, host, taken, fire, expireAt, fireDue]

/-- A wake-up is a tick, after which the executor may settle. -/
theorem passes_wakeUp
    (world : World)
    (now : Nat) :
    Passes { world with now } 1 { host.wakeUp (now + 1) world with now := now + 1 } := by
  have ticked := Passes.tick { world with now }
  rcases wakeUp_cases world (now + 1) with ⟨nothingDue, unchanged⟩ | fired
  · rw [unchanged]
    have idle : ({ world with now } : World).later.fireDue = { world with now := now + 1 } :=
      fireDue_of_due?_eq_none nothingDue
    rwa [idle] at ticked
  · have clock : (host.wakeUp (now + 1) world).now = now + 1 := by
      rw [fired, now_settle, now_fireDue]
    have settled := ticked.trans (passes_settle _)
    rw [withNow_eq clock, fired]
    exact settled

/-- Waking up in every millisecond is a run on time. -/
theorem passes_tick
    (world : World)
    (remaining now : Nat) :
    Passes { world with now } remaining
      { host.tick remaining now world with now := now + remaining } := by
  induction remaining generalizing world now with
  | zero =>
      exact .refl _
  | succ remaining inductionHypothesis =>
      have rest := inductionHypothesis (host.wakeUp (now + 1) world) (now + 1)
      have all := (passes_wakeUp world now).trans rest
      rw [Nat.add_right_comm, Nat.add_comm 1 remaining] at all
      exact all

/-- Letting time pass, sleeping from one deadline to the next, is a run on time. -/
theorem passes_advance
    (world : World)
    (milliseconds : Nat) :
    Passes world milliseconds (world.advance milliseconds) := by
  have ticked := passes_tick world milliseconds world.now
  have slept :
      host.advance (world.now + milliseconds) world.now world =
        host.tick milliseconds world.now world := by
    rw [host.advance_eq_tick, Nat.add_sub_cancel_left]
  rw [← slept] at ticked
  exact ticked

end World

end RefreshRate.Controller
