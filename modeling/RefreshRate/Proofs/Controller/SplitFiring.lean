import RefreshRate.Proofs.Controller.Alarm
import RefreshRate.Proofs.Controller.Override

namespace RefreshRate.Controller

/-!
# Firing in two steps

The scheduler takes a debounce out of its slot first and does it afterwards.  A
signal that comes in between finds nothing to cancel.  As long as the cause of the
debounce has not begun again in between, doing it late is right; a cause that has
begun again is undone.
-/

/-- A controller, and the debounce that was taken and has yet to be done. -/
structure SplitWorld where
  world : World
  taken? : Option Debounce := none

/-- A move of a controller of which the alarms fire in two steps. -/
inductive SplitMove where
  | receive (signal : Signal)
  | elapse (milliseconds : Nat)
  | work
  /-- The alarm that is due is taken, if nothing else is taken. -/
  | take
  /-- The debounce that was taken is done. -/
  | perform
  deriving Repr, DecidableEq

namespace Move

/-- The moves that a move consists of when alarms fire in two steps. -/
def split : Move → List SplitMove
  | .receive signal =>
      [.receive signal]
  | .elapse milliseconds =>
      [.elapse milliseconds]
  | .work =>
      [.work]
  | .fire =>
      [.take, .perform]

/-- Whether the fingers are in a gesture after a move. -/
def leavesInGesture
    (inGesture : Bool)
    (move : Move) :
    Bool :=
  (move.signal?.bind Signal.toldInput?).elim inGesture InputState.inGesture

end Move

namespace SplitMove

/-- The move that is made whole. -/
def whole? : SplitMove → Option Move
  | .receive signal =>
      some (.receive signal)
  | .elapse milliseconds =>
      some (.elapse milliseconds)
  | .work =>
      some .work
  | .take | .perform =>
      none

/-- Whether the fingers are in a gesture after a move. -/
def leavesInGesture
    (inGesture : Bool)
    (move : SplitMove) :
    Bool :=
  move.whole?.elim inGesture (Move.leavesInGesture inGesture)

/-- Whether the fingers are in a gesture after a run. -/
def endsInGesture (moves : List SplitMove) : Bool :=
  moves.foldl leavesInGesture false

section Whole

variable {move : SplitMove} {wholeMove : Move}

theorem ne_fire_of_whole
    (isWhole : move.whole? = some wholeMove) :
    wholeMove ≠ .fire := by
  rintro rfl
  cases move <;> cases isWhole

theorem eq_receive_of_whole
    {signal : Signal}
    (isWhole : move.whole? = some (.receive signal)) :
    move = .receive signal := by
  cases move <;> cases isWhole
  rfl

theorem leavesInGesture_of_whole
    (inGesture : Bool)
    (isWhole : move.whole? = some wholeMove) :
    move.leavesInGesture inGesture = wholeMove.leavesInGesture inGesture := by
  rw [leavesInGesture, isWhole]
  rfl

end Whole

end SplitMove

namespace Debounce

/-- Whether that of which a debounce awaits the end goes on. -/
def isCaused
    (state : State)
    (inGesture : Bool) :
    Debounce → Bool
  | .enterIdle =>
      state.touch || state.button
  | .exitGesture =>
      inGesture
  | .exitOffscreen =>
      state.isOffscreen

/-- Whether a signal begins that of which a debounce awaits the end. -/
def isBegunBy : Debounce → Signal → Bool
  | .enterIdle, .touch pressed =>
      pressed
  | .enterIdle, .button pressed =>
      pressed
  | .exitGesture, .inputState input =>
      input.inGesture
  | .exitOffscreen, .offscreen isOff =>
      isOff
  | _, _ =>
      false

end Debounce

namespace SplitWorld

def take (split : SplitWorld) : SplitWorld :=
  match split.taken?, split.world.timers.takeDue? split.world.now with
  | none, some (firing, timers) =>
      ⟨{ split.world with timers }, some firing.alarm.work⟩
  | _, _ =>
      split

def perform (split : SplitWorld) : SplitWorld :=
  match split.taken? with
  | none =>
      split
  | some debounce =>
      ⟨split.world.expire debounce, none⟩

def step (split : SplitWorld) : SplitMove → SplitWorld
  | .receive signal =>
      { split with world := split.world.step (.receive signal) }
  | .elapse milliseconds =>
      { split with world := split.world.step (.elapse milliseconds) }
  | .work =>
      { split with world := split.world.step .work }
  | .take =>
      split.take
  | .perform =>
      split.perform

def run
    (split : SplitWorld)
    (moves : List SplitMove) :
    SplitWorld :=
  moves.foldl step split

/-- A new controller of which the alarms fire in two steps. -/
def create (config : Config) : SplitWorld where
  world := World.create config

end SplitWorld

namespace World

variable {world next : World} {move : Move} {inGesture : Bool}

/-- What a move other than a firing can do to the cause and the alarm of a debounce. -/
inductive CauseStep
    (world next : World)
    (inGesture : Bool)
    (move : Move)
    (debounce : Debounce) :
    Prop where
  | cancelled
      (disarmed : next.alarm? debounce = none)
      (begun :
        debounce.isCaused world.state inGesture = false →
          ∃ signal, move = .receive signal ∧ debounce.isBegunBy signal = true)
  | ended
      (notCaused : debounce.isCaused next.state (move.leavesInGesture inGesture) = false)
  | kept
      (sameCause :
        debounce.isCaused next.state (move.leavesInGesture inGesture) =
          debounce.isCaused world.state inGesture)
      (sameAlarm : next.alarm? debounce = world.alarm? debounce)

/-- A press or a release cancels the idle debounce, or nothing is pressed after it. -/
theorem causeStep_onInput
    (wellFormed : WellFormed world)
    (signal : Signal)
    (state : State)
    (receives : world.state.receive signal = state.onInput)
    (begun :
      (state.touch || state.button) = true →
        (world.state.touch || world.state.button) = false →
          Debounce.enterIdle.isBegunBy signal = true) :
    CauseStep world (world.react (world.state.receive signal)) inGesture (.receive signal)
      .enterIdle := by
  rw [receives]
  cases pressed : state.touch || state.button with
  | true =>
      refine .cancelled ?_ fun released => ⟨signal, rfl, begun pressed released⟩
      simp [alarm?_react wellFormed, State.onInput, pressed, Command.alarmAfter?]
  | false =>
      refine .ended ?_
      simp [Debounce.isCaused, State.onInput, pressed]

/-- What a signal does to the cause and the alarm of the idle debounce. -/
theorem causeStep_receive_enterIdle
    (wellFormed : WellFormed world)
    (signal : Signal) :
    CauseStep world (world.react (world.state.receive signal)) inGesture (.receive signal)
      .enterIdle := by
  cases signal with
  | touch pressed =>
      refine causeStep_onInput wellFormed _ { world.state with touch := pressed } rfl ?_
      intro held released
      simp_all [Debounce.isBegunBy]
  | button pressed =>
      refine causeStep_onInput wellFormed _ { world.state with button := pressed } rfl ?_
      intro held released
      simp_all [Debounce.isBegunBy]
  | inputState input =>
      refine .kept ?_ ?_
      · simp only [Debounce.isCaused, state_react, State.receive, State.onInputState]
        split <;> rfl
      · simp only [alarm?_react wellFormed, State.receive, State.onInputState]
        split <;> rfl
  | topApp app =>
      refine .kept ?_ ?_
      · simp only [Debounce.isCaused, state_react, State.receive, State.onTopApp]
        split <;> rfl
      · simp only [alarm?_react wellFormed, State.receive, State.onTopApp]
        split <;> rfl
  | offscreen isOff =>
      refine .kept ?_ ?_
      · simp only [Debounce.isCaused, state_react, State.receive, State.onOffscreen]
        split
        · rfl
        · split <;> rfl
      · simp only [alarm?_react wellFormed, State.receive, State.onOffscreen]
        split
        · rfl
        · split <;> rfl
  | cgroup group tasks =>
      exact .kept rfl rfl

/-- What a step does to overrides tells what it does to gestures and their exit. -/
theorem OverrideStep.causeStep_exitGesture
    (overrideStep : OverrideStep world move next.overrideView)
    (notFire : move ≠ .fire) :
    CauseStep world next inGesture move .exitGesture := by
  generalize viewIs : next.overrideView = view at overrideStep
  have exitIs : next.alarm? .exitGesture = view.gestureExit? :=
    congrArg OverrideView.gestureExit? viewIs
  cases overrideStep with
  | kept noInput noEdge =>
      refine .kept ?_ exitIs
      rw [Move.leavesInGesture, noInput]
      rfl
  | gestureStarted input startsGesture =>
      exact .cancelled exitIs fun _ => ⟨.inputState input, rfl, startsGesture⟩
  | gestureEnded input notInGesture =>
      exact .ended notInGesture
  | wentOffscreen wasOnscreen =>
      exact .kept rfl exitIs
  | returned wasOffscreen =>
      exact .kept rfl exitIs
  | gestureExited deadline armed reached =>
      exact absurd rfl notFire
  | offscreenExited deadline armed reached =>
      exact absurd rfl notFire

/-- What a step does to overrides tells what it does to being offscreen and its exit. -/
theorem OverrideStep.causeStep_exitOffscreen
    (overrideStep : OverrideStep world move next.overrideView)
    (notFire : move ≠ .fire) :
    CauseStep world next inGesture move .exitOffscreen := by
  generalize viewIs : next.overrideView = view at overrideStep
  have exitIs : next.alarm? .exitOffscreen = view.offscreenExit? :=
    congrArg OverrideView.offscreenExit? viewIs
  have causeIs : next.state.isOffscreen = view.isOffscreen :=
    congrArg OverrideView.isOffscreen viewIs
  cases overrideStep with
  | kept noInput noEdge =>
      exact .kept causeIs exitIs
  | gestureStarted input startsGesture =>
      exact .kept causeIs exitIs
  | gestureEnded input notInGesture =>
      exact .kept causeIs exitIs
  | wentOffscreen wasOnscreen =>
      exact .cancelled exitIs fun _ => ⟨.offscreen true, rfl, rfl⟩
  | returned wasOffscreen =>
      exact .ended causeIs
  | gestureExited deadline armed reached =>
      exact absurd rfl notFire
  | offscreenExited deadline armed reached =>
      exact absurd rfl notFire

theorem isCaused_switch
    (world : World)
    (inGesture : Bool)
    (debounce : Debounce) :
    debounce.isCaused world.switch.state inGesture =
      debounce.isCaused world.state inGesture := by
  unfold switch
  split
  · cases debounce <;> rfl
  · rfl

/-- What a step other than a firing does to the cause and the alarm of a debounce. -/
theorem Stepped.causeStep
    (stepped : Stepped world move next)
    (operating : Operating world)
    (notFire : move ≠ .fire)
    (debounce : Debounce) :
    CauseStep world next inGesture move debounce := by
  have overrideStep := stepped.overrideStep operating
  cases debounce with
  | enterIdle =>
      cases stepped with
      | received signal =>
          exact causeStep_receive_enterIdle operating.toWellFormed signal
      | elapsed milliseconds =>
          exact .kept rfl rfl
      | notFired nothingDue =>
          exact absurd rfl notFire
      | fired debounce deadline due armed reached =>
          exact absurd rfl notFire
      | worked worked =>
          cases worked with
          | goesOn executor =>
              exact .kept rfl rfl
          | takes executor =>
              exact .kept rfl rfl
          | switches executor =>
              refine .kept (isCaused_switch world _ _) ?_
              simp only [alarm?, timers_switch]
  | exitGesture =>
      exact overrideStep.causeStep_exitGesture notFire
  | exitOffscreen =>
      exact overrideStep.causeStep_exitOffscreen notFire

end World

namespace SplitWorld

/-- To take and to perform at once is to fire. -/
theorem run_split
    (world : World)
    (moves : List Move) :
    run ⟨world, none⟩ (moves.flatMap Move.split) = ⟨world.run moves, none⟩ := by
  induction moves generalizing world with
  | nil =>
      rfl
  | cons move rest inductionHypothesis =>
      have stepped : run ⟨world, none⟩ move.split = ⟨world.step move, none⟩ := by
        cases move with
        | receive signal =>
            rfl
        | elapse milliseconds =>
            rfl
        | work =>
            rfl
        | fire =>
            simp only [Move.split, run, List.foldl_cons, List.foldl_nil, step, take, perform,
              World.step, World.fireDue]
            cases world.timers.takeDue? world.now with
            | none =>
                rfl
            | some taken =>
                rfl
      rw [List.flatMap_cons, run, List.foldl_append]
      rw [run] at stepped
      rw [stepped]
      exact inductionHypothesis (world.step move)

/-- What a move can do when alarms fire in two steps. -/
inductive Stepped (split : SplitWorld) : SplitMove → SplitWorld → Prop where
  | whole
      {move : SplitMove}
      {wholeMove : Move}
      {next : World}
      (isWhole : move.whole? = some wholeMove)
      (stepped : World.Stepped split.world wholeMove next) :
      Stepped split move { split with world := next }
  | notTaken :
      Stepped split .take split
  | taken
      (debounce : Debounce)
      (nothingTaken : split.taken? = none)
      (due : split.world.due? = some debounce) :
      Stepped split .take ⟨split.world.carryOut (.cancel debounce), some debounce⟩
  | notPerformed :
      Stepped split .perform split
  | performed
      (debounce : Debounce)
      (wasTaken : split.taken? = some debounce) :
      Stepped split .perform ⟨split.world.react (split.world.state.expire debounce), none⟩

theorem take_of_due?_eq_some
    {split : SplitWorld}
    {debounce : Debounce}
    (operating : World.Operating split.world)
    (nothingTaken : split.taken? = none)
    (due : split.world.due? = some debounce) :
    split.take = ⟨split.world.carryOut (.cancel debounce), some debounce⟩ := by
  obtain ⟨⟨firing, rest⟩, found, rfl⟩ := Option.map_eq_some_iff.1 due
  obtain ⟨armed, -, rfl⟩ := Timer.Table.takeDue?_eq_some found
  simp only [take, nothingTaken, found, World.carryOut, operating.ownSlot armed]

theorem take_of_due?_eq_none
    {split : SplitWorld}
    (nothingTaken : split.taken? = none)
    (nothingDue : split.world.due? = none) :
    split.take = split := by
  have notFound := Option.map_eq_none_iff.1 nothingDue
  simp only [take, nothingTaken, notFound]

theorem stepped_step
    {split : SplitWorld}
    (operating : World.Operating split.world)
    (move : SplitMove) :
    Stepped split move (split.step move) := by
  cases move with
  | receive signal =>
      exact .whole rfl (World.stepped_step operating (.receive signal))
  | elapse milliseconds =>
      exact .whole rfl (World.stepped_step operating (.elapse milliseconds))
  | work =>
      exact .whole rfl (World.stepped_step operating .work)
  | take =>
      rw [step]
      cases taken : split.taken? with
      | some debounce =>
          have unchanged : split.take = split := by
            simp only [take, taken]
          rw [unchanged]
          exact .notTaken
      | none =>
          cases due : split.world.due? with
          | none =>
              rw [take_of_due?_eq_none taken due]
              exact .notTaken
          | some debounce =>
              rw [take_of_due?_eq_some operating taken due]
              exact .taken debounce taken due
  | perform =>
      simp only [step, perform]
      cases taken : split.taken? with
      | none =>
          exact .notPerformed
      | some debounce =>
          simp only [World.expire, operating.isAlive, if_true]
          exact .performed debounce taken

variable {split next : SplitWorld} {inGesture : Bool} {debounce : Debounce}

/-- A controller that operates and has no debounce armed of which the cause goes on. -/
structure Disarmed (split : SplitWorld) (inGesture : Bool) : Prop where
  operating : World.Operating split.world
  disarmed :
    ∀ debounce : Debounce,
      debounce.isCaused split.world.state inGesture = true →
        split.world.alarm? debounce = none

theorem isCaused_expire
    (state : State)
    (debounce other : Debounce) :
    other.isCaused (state.expire debounce).1 inGesture = other.isCaused state inGesture := by
  have sameFields :
      (state.expire debounce).1.touch = state.touch ∧
        (state.expire debounce).1.button = state.button ∧
          (state.expire debounce).1.isOffscreen = state.isOffscreen := by
    cases debounce with
    | enterIdle =>
        exact ⟨rfl, rfl, rfl⟩
    | exitGesture =>
        rw [State.expire]
        split <;> exact ⟨rfl, rfl, rfl⟩
    | exitOffscreen =>
        rw [State.expire]
        split <;> exact ⟨rfl, rfl, rfl⟩
  obtain ⟨touch, button, isOffscreen⟩ := sameFields
  cases other with
  | enterIdle =>
      simp only [Debounce.isCaused, touch, button]
  | exitGesture =>
      rfl
  | exitOffscreen =>
      exact isOffscreen

/-- No step arms a debounce of which the cause goes on. -/
theorem Disarmed.step
    {move : SplitMove}
    (disarmed : Disarmed split inGesture)
    (stepped : Stepped split move next) :
    Disarmed next (move.leavesInGesture inGesture) := by
  cases stepped with
  | whole isWhole stepped =>
      refine ⟨stepped.operating disarmed.operating, ?_⟩
      intro debounce caused
      rw [SplitMove.leavesInGesture_of_whole inGesture isWhole] at caused
      have notFire := SplitMove.ne_fire_of_whole isWhole
      cases stepped.causeStep disarmed.operating notFire debounce with
      | cancelled none begun =>
          exact none
      | ended notCaused =>
          cases notCaused.symm.trans caused
      | kept sameCause sameAlarm =>
          exact sameAlarm.trans (disarmed.disarmed debounce (sameCause.symm.trans caused))
  | notTaken =>
      exact disarmed
  | taken taken nothingTaken due =>
      refine
        ⟨⟨World.wellFormed_carryOut disarmed.operating.toWellFormed (.cancel taken),
          disarmed.operating.isAlive⟩, ?_⟩
      intro debounce caused
      have before := disarmed.disarmed debounce caused
      rw [World.alarm?_carryOut disarmed.operating.toWellFormed]
      simp only [Command.alarmAfter?, before, ite_self]
  | notPerformed =>
      exact disarmed
  | performed performed wasTaken =>
      refine
        ⟨⟨World.wellFormed_react disarmed.operating.toWellFormed _,
          (World.isAlive_react _ _).trans disarmed.operating.isAlive⟩, ?_⟩
      intro debounce caused
      rw [World.state_react, isCaused_expire] at caused
      rw [World.alarm?_react_expire disarmed.operating.toWellFormed]
      exact disarmed.disarmed debounce caused

/-- No run arms a debounce of which the cause goes on. -/
theorem Disarmed.run
    (disarmed : Disarmed split inGesture)
    (moves : List SplitMove) :
    Disarmed (split.run moves) (moves.foldl SplitMove.leavesInGesture inGesture) := by
  induction moves generalizing split inGesture with
  | nil =>
      exact disarmed
  | cons move rest inductionHypothesis =>
      exact inductionHypothesis (disarmed.step (stepped_step disarmed.operating move))

theorem disarmed_create (config : Config) : Disarmed (create config) false where
  operating := World.operating_create config
  disarmed := by
    intro debounce caused
    cases debounce <;> cases caused

/-- A cause that is over stays over unless a signal begins it. -/
theorem isCaused_step_of_notBegun
    {move : SplitMove}
    (operating : World.Operating split.world)
    (stepped : Stepped split move next)
    (isOver : debounce.isCaused split.world.state inGesture = false)
    (notBegun : ∀ signal, move = .receive signal → debounce.isBegunBy signal = false) :
    debounce.isCaused next.world.state (move.leavesInGesture inGesture) = false := by
  cases stepped with
  | whole isWhole stepped =>
      rw [SplitMove.leavesInGesture_of_whole inGesture isWhole]
      have notFire := SplitMove.ne_fire_of_whole isWhole
      cases stepped.causeStep operating notFire debounce with
      | cancelled none begun =>
          obtain ⟨signal, rfl, begins⟩ := begun isOver
          have quiet := notBegun signal (SplitMove.eq_receive_of_whole isWhole)
          cases quiet.symm.trans begins
      | ended notCaused =>
          exact notCaused
      | kept sameCause sameAlarm =>
          exact sameCause.trans isOver
  | notTaken =>
      exact isOver
  | taken taken nothingTaken due =>
      exact isOver
  | notPerformed =>
      exact isOver
  | performed performed wasTaken =>
      rw [World.state_react, isCaused_expire]
      exact isOver

theorem isCaused_run_of_notBegun
    {moves : List SplitMove}
    (disarmed : Disarmed split inGesture)
    (isOver : debounce.isCaused split.world.state inGesture = false)
    (notBegun : ∀ signal, .receive signal ∈ moves → debounce.isBegunBy signal = false) :
    debounce.isCaused (split.run moves).world.state
      (moves.foldl SplitMove.leavesInGesture inGesture) = false := by
  induction moves generalizing split inGesture with
  | nil =>
      exact isOver
  | cons move rest inductionHypothesis =>
      have stepped := stepped_step disarmed.operating move
      have nextOver :=
        isCaused_step_of_notBegun disarmed.operating stepped isOver
          fun signal isReceive => notBegun signal (isReceive ▸ List.mem_cons_self)
      exact
        inductionHypothesis (disarmed.step stepped) nextOver
          fun signal member => notBegun signal (List.mem_cons_of_mem move member)

theorem taken?_run
    {moves : List SplitMove}
    (taken : split.taken? = some debounce)
    (notPerformed : .perform ∉ moves) :
    (split.run moves).taken? = some debounce := by
  induction moves generalizing split with
  | nil =>
      exact taken
  | cons move rest inductionHypothesis =>
      refine inductionHypothesis ?_ fun member => notPerformed (List.mem_cons_of_mem move member)
      cases move with
      | receive signal =>
          exact taken
      | elapse milliseconds =>
          exact taken
      | work =>
          exact taken
      | take =>
          rw [step, take]
          simp only [taken]
      | perform =>
          exact absurd List.mem_cons_self notPerformed

/-- A debounce of which the cause is over undoes nothing of which the cause goes on. -/
theorem perform_keeps_caused
    (operating : World.Operating split.world)
    (taken : split.taken? = some debounce)
    (isOver : debounce.isCaused split.world.state inGesture = false) :
    ((split.world.state.touch || split.world.state.button) = true →
        split.perform.world.state.isActive = split.world.state.isActive) ∧
      (inGesture = true →
        split.world.state.override? = some .gesture →
          split.perform.world.state.override? = some .gesture) ∧
      (split.world.state.isOffscreen = true →
        split.world.state.override? = some .offscreen →
          split.perform.world.state.override? = some .offscreen) := by
  have performed :
      split.perform.world.state = (split.world.state.expire debounce).1 := by
    simp [perform, taken, World.expire, operating.isAlive]
  rw [performed]
  cases debounce with
  | enterIdle =>
      refine ⟨?_, fun _ override => override, fun _ override => override⟩
      intro pressed
      cases isOver.symm.trans pressed
  | exitGesture =>
      refine ⟨?_, ?_, ?_⟩
      · intro _
        rw [State.expire]
        split <;> rfl
      · intro stillInGesture
        cases isOver.symm.trans stillInGesture
      · intro _ override
        simp [State.expire, override]
  | exitOffscreen =>
      refine ⟨?_, ?_, ?_⟩
      · intro _
        rw [State.expire]
        split <;> rfl
      · intro _ override
        simp [State.expire, override]
      · intro stillOffscreen
        cases isOver.symm.trans stillOffscreen

/--
A debounce that was taken and is done after other moves undoes nothing of which
the cause goes on, unless a signal has begun its own cause in between.
-/
theorem perform_keeps_caused_of_notBegun
    (config : Config)
    (before between : List SplitMove)
    (nothingTaken : ((create config).run before).taken? = none)
    (due : ((create config).run before).world.due? = some debounce)
    (notPerformed : .perform ∉ between)
    (notBegun : ∀ signal, .receive signal ∈ between → debounce.isBegunBy signal = false) :
    let split := (create config).run (before ++ .take :: between)
    split.taken? = some debounce ∧
      ((split.world.state.touch || split.world.state.button) = true →
        split.perform.world.state.isActive = split.world.state.isActive) ∧
      (SplitMove.endsInGesture (before ++ .take :: between) = true →
        split.world.state.override? = some .gesture →
          split.perform.world.state.override? = some .gesture) ∧
      (split.world.state.isOffscreen = true →
        split.world.state.override? = some .offscreen →
          split.perform.world.state.override? = some .offscreen) := by
  have disarmed := (disarmed_create config).run before
  have isOver :
      debounce.isCaused ((create config).run before).world.state
        (SplitMove.endsInGesture before) = false := by
    obtain ⟨deadline, armed, -⟩ :=
      World.alarm?_of_due?_eq_some disarmed.operating.toWellFormed due
    by_contra goesOn
    have notArmed := disarmed.disarmed debounce (Bool.not_eq_false _ ▸ goesOn)
    cases notArmed.symm.trans armed
  have takenNow := take_of_due?_eq_some disarmed.operating nothingTaken due
  have disarmedTaken := disarmed.step (stepped_step disarmed.operating .take)
  have overTaken :
      debounce.isCaused (((create config).run before).step .take).world.state
        (SplitMove.endsInGesture before) = false := by
    rw [step, takenNow]
    exact isOver
  have taken :
      (((create config).run before).step .take).taken? = some debounce := by
    rw [step, takenNow]
  intro split
  have splitIs : split = (((create config).run before).step .take).run between := by
    simp only [split, run, List.foldl_append, List.foldl_cons]
  have inGestureIs :
      SplitMove.endsInGesture (before ++ .take :: between) =
        between.foldl SplitMove.leavesInGesture (SplitMove.endsInGesture before) :=
    List.foldl_append
  rw [splitIs, inGestureIs]
  exact
    ⟨taken?_run taken notPerformed,
      perform_keeps_caused (disarmedTaken.run between).operating (taken?_run taken notPerformed)
        (isCaused_run_of_notBegun disarmedTaken overTaken notBegun)⟩

/-- A press, its release and the slack time, and a press after the debounce was taken. -/
def pressAfterTake : List SplitMove :=
  [.receive (.touch true), .receive (.touch false), .elapse 1000, .take,
    .receive (.touch true), .perform]

/-- A gesture, its end and the slack time, and a gesture after the debounce was taken. -/
def gestureAfterTake : List SplitMove :=
  [.receive (.inputState ⟨false, false, true⟩),
    .receive (.inputState ⟨false, false, false⟩), .elapse 500, .take,
    .receive (.inputState ⟨false, false, true⟩), .perform]

/-- An edge to offscreen, the return, and an edge after the debounce was taken. -/
def edgeAfterTake : List SplitMove :=
  [.receive (.offscreen true), .receive (.offscreen false), .elapse 500, .take,
    .receive (.offscreen true), .perform]

/-- What has begun again between taking and doing is undone. -/
theorem perform_undoes_begun :
    (((create World.sampleConfig).run pressAfterTake).world.state.touch = true ∧
        ((create World.sampleConfig).run pressAfterTake).world.state.isActive = false) ∧
      (SplitMove.endsInGesture gestureAfterTake = true ∧
        ((create World.sampleConfig).run gestureAfterTake).world.state.override? = none) ∧
      (((create World.sampleConfig).run edgeAfterTake).world.state.isOffscreen = true ∧
        ((create World.sampleConfig).run edgeAfterTake).world.state.override? = none) := by
  decide

end SplitWorld

end RefreshRate.Controller
