import RefreshRate.Proofs.Controller.Applied
import RefreshRate.Proofs.Controller.Loop

namespace RefreshRate

/-!
# Activity follows touch and button

A log of what the signals have told, and when, says whether the screen is active:
as long as touch or button is pressed it is, and it becomes idle when the touch slack since
the last signal has passed, or at most two milliseconds later, because the other two
debounces may go first.  The milliseconds in which the loop of the timers was passed over come
on top; a signal that gets ahead of it in every millisecond keeps the screen active.
-/

/-- Whether touch and button are pressed after a signal that tells about one of them. -/
def Signal.keys?
    (touch button : Bool) :
    Signal → Option (Bool × Bool)
  | .touch pressed =>
      some (pressed, button)
  | .button pressed =>
      some (touch, pressed)
  | _ =>
      none

namespace Controller

/-- What signals have told about touch and button, and the time of the last such signal. -/
structure PressLog where
  now : Nat := 0
  touch : Bool := false
  button : Bool := false
  lastAt? : Option Nat := none

namespace PressLog

variable {log : PressLog} {move : Move}

def isPressed (log : PressLog) : Bool :=
  log.touch || log.button

/-- Note what a move tells. -/
def note (log : PressLog) : Move → PressLog
  | .receive signal =>
      match signal.keys? log.touch log.button with
      | some (touch, button) =>
          { log with touch, button, lastAt? := some log.now }
      | none =>
          log
  | .elapse milliseconds =>
      { log with now := log.now + milliseconds }
  | .fire | .work =>
      log

/-- A move that tells nothing about touch and button leaves the log of them as it is. -/
theorem note_of_quiet
    (quiet : ∀ signal, move = .receive signal → signal.keys? log.touch log.button = none) :
    ∃ now, log.note move = { log with now } := by
  cases move with
  | receive signal =>
      refine ⟨log.now, ?_⟩
      simp only [note, quiet signal rfl]
  | elapse milliseconds =>
      exact ⟨_, rfl⟩
  | fire =>
      exact ⟨log.now, rfl⟩
  | work =>
      exact ⟨log.now, rfl⟩

theorem note_of_tells
    {signal : Signal}
    {touch button : Bool}
    (tells : signal.keys? log.touch log.button = some (touch, button)) :
    log.note (.receive signal) = { log with touch, button, lastAt? := some log.now } := by
  simp only [note, tells]

/-- The log of a run. -/
def ofMoves (moves : List Move) : PressLog :=
  moves.foldl note {}

theorem ofMoves_filter_isHeard (moves : List Move) :
    ofMoves (moves.filter Move.isHeard) = ofMoves moves := by
  rw [ofMoves, List.foldl_filter, ofMoves]
  congr 1
  funext log move
  cases move <;> rfl

end PressLog

/-- The part of the world that decides about activity. -/
structure ActivityView where
  touch : Bool
  button : Bool
  isActive : Bool
  idle? : Option (Timer.Alarm Debounce)

namespace World

variable {world next : World} {move : Move} {log : PressLog}

def activityView (world : World) : ActivityView where
  touch := world.state.touch
  button := world.state.button
  isActive := world.state.isActive
  idle? := world.alarm? .enterIdle

/-- What a move can do to activity and its end. -/
inductive ActivityStep (world : World) : Move → ActivityView → Prop where
  | kept
      {move : Move}
      (quiet :
        ∀ signal,
          move = .receive signal →
            signal.keys? world.state.touch world.state.button = none) :
      ActivityStep world move world.activityView
  | pressed
      {signal : Signal}
      {touch button : Bool}
      (tells : signal.keys? world.state.touch world.state.button = some (touch, button))
      (held : (touch || button) = true) :
      ActivityStep world (.receive signal) ⟨touch, button, true, none⟩
  | released
      {signal : Signal}
      {touch button : Bool}
      (tells : signal.keys? world.state.touch world.state.button = some (touch, button))
      (free : (touch || button) = false) :
      ActivityStep world (.receive signal)
        ⟨touch, button, world.state.isActive,
          some ⟨world.deadline .enterIdle, .enterIdle⟩⟩
  | idled
      (armed : (world.alarm? .enterIdle).isSome = true) :
      ActivityStep world .fire
        { world.activityView with
          isActive := false
          idle? := none }

/-- The world follows the log of what it was told. -/
structure Follows (world : World) (log : PressLog) : Prop where
  now : world.now = log.now
  touch : world.state.touch = log.touch
  button : world.state.button = log.button
  pressed :
    log.isPressed = true →
      world.state.isActive = true ∧ world.alarm? .enterIdle = none
  armed :
    ∀ alarm,
      world.alarm? .enterIdle = some alarm →
        ∃ last,
          log.lastAt? = some last ∧
            alarm.deadline = ((last + world.config.tunables.touchSlack : Nat) : Int)
  active :
    world.state.isActive = true →
      log.isPressed = true ∨ (world.alarm? .enterIdle).isSome = true

theorem ActivityStep.kept_of_silent
    (silent : move.signal? = none) :
    ActivityStep world move world.activityView := by
  refine .kept ?_
  rintro signal rfl
  cases silent

/-- A press cancels the idle debounce, and the last release arms it. -/
theorem activityStep_onInput
    (wellFormed : WellFormed world)
    {signal : Signal}
    (state : State)
    (receives : world.state.receive signal = state.onInput)
    (tells :
      signal.keys? world.state.touch world.state.button = some (state.touch, state.button))
    (sameActive : state.isActive = world.state.isActive) :
    ActivityStep world (.receive signal)
      (world.react (world.state.receive signal)).activityView := by
  rw [receives]
  cases pressed : state.touch || state.button with
  | true =>
      have after :
          (world.react state.onInput).activityView =
            ⟨state.touch, state.button, true, none⟩ := by
        simp [activityView, alarm?_react wellFormed, State.onInput, pressed,
          Command.alarmAfter?]
      rw [after]
      exact .pressed tells pressed
  | false =>
      have after :
          (world.react state.onInput).activityView =
            ⟨state.touch, state.button, world.state.isActive,
              some ⟨world.deadline .enterIdle, .enterIdle⟩⟩ := by
        simp [activityView, alarm?_react wellFormed, State.onInput, pressed, sameActive,
          Command.alarmAfter?]
      rw [after]
      exact .released tells pressed

/-- What a signal does to activity and its end. -/
theorem activityStep_receive
    (wellFormed : WellFormed world)
    (signal : Signal) :
    ActivityStep world (.receive signal)
      (world.react (world.state.receive signal)).activityView := by
  have quietly
      (unchanged :
        (world.react (world.state.receive signal)).activityView = world.activityView)
      (noKeys : signal.keys? world.state.touch world.state.button = none) :
      ActivityStep world (.receive signal)
        (world.react (world.state.receive signal)).activityView := by
    rw [unchanged]
    refine .kept ?_
    rintro _ ⟨⟩
    exact noKeys
  cases signal with
  | touch pressed =>
      exact activityStep_onInput wellFormed { world.state with touch := pressed } rfl rfl rfl
  | button pressed =>
      exact activityStep_onInput wellFormed { world.state with button := pressed } rfl rfl rfl
  | inputState input =>
      refine quietly ?_ rfl
      simp only [activityView, state_react, alarm?_react wellFormed, State.receive,
        State.onInputState]
      split
      · rfl
      · rfl
  | topApp app =>
      refine quietly ?_ rfl
      simp only [activityView, state_react, alarm?_react wellFormed, State.receive,
        State.onTopApp]
      split
      · rfl
      · rfl
  | offscreen isOff =>
      refine quietly ?_ rfl
      simp only [activityView, state_react, alarm?_react wellFormed, State.receive,
        State.onOffscreen]
      split
      · rfl
      · split
        · rfl
        · rfl
  | cgroup group tasks =>
      exact quietly rfl rfl

/-- What an alarm that fires does to activity and its end. -/
theorem activityStep_fired
    (wellFormed : WellFormed world)
    {debounce : Debounce}
    (armed : (world.alarm? debounce).isSome = true) :
    ActivityStep world .fire (world.fired debounce).activityView := by
  have stateAfter : (world.fired debounce).state = (world.state.expire debounce).1 :=
    state_react _ _
  cases debounce with
  | enterIdle =>
      have after :
          (world.fired .enterIdle).activityView =
            { world.activityView with
              isActive := false
              idle? := none } := by
        simp [activityView, alarm?_fired wellFormed, stateAfter, State.expire]
      rw [after]
      exact .idled armed
  | exitGesture =>
      have unchanged : (world.fired .exitGesture).activityView = world.activityView := by
        simp only [activityView, alarm?_fired wellFormed, stateAfter, State.expire]
        split
        · rfl
        · rfl
      rw [unchanged]
      exact .kept_of_silent rfl
  | exitOffscreen =>
      have unchanged : (world.fired .exitOffscreen).activityView = world.activityView := by
        simp only [activityView, alarm?_fired wellFormed, stateAfter, State.expire]
        split
        · rfl
        · rfl
      rw [unchanged]
      exact .kept_of_silent rfl

/-- Every step of a controller does one of the listed things to activity. -/
theorem Stepped.activityStep
    (stepped : Stepped world move next)
    (operating : Operating world) :
    ActivityStep world move next.activityView := by
  cases stepped with
  | received signal =>
      exact activityStep_receive operating.toWellFormed signal
  | elapsed milliseconds =>
      exact .kept_of_silent rfl
  | notFired nothingDue =>
      exact .kept_of_silent rfl
  | fired debounce deadline due armed reached =>
      exact activityStep_fired operating.toWellFormed (Option.isSome_iff_exists.mpr ⟨_, armed⟩)
  | worked worked =>
      cases worked with
      | goesOn executor =>
          exact .kept_of_silent rfl
      | takes executor =>
          exact .kept_of_silent rfl
      | switches executor =>
          have unchanged :
              ({ world.switch with executor } : World).activityView = world.activityView := by
            simp only [activityView, World.alarm?, timers_switch]
            unfold switch
            split <;> rfl
          rw [unchanged]
          exact .kept_of_silent rfl

/-- The clock of the log goes on with that of the world. -/
theorem Stepped.now_note
    (stepped : Stepped world move next)
    (now : world.now = log.now) :
    next.now = (log.note move).now := by
  cases stepped with
  | received signal =>
      rw [now_react, now, PressLog.note]
      split <;> rfl
  | elapsed milliseconds =>
      exact congrArg (· + milliseconds) now
  | notFired nothingDue =>
      exact now
  | fired debounce deadline due armed reached =>
      exact (now_react _ _).trans now
  | worked worked =>
      cases worked with
      | goesOn executor =>
          exact now
      | takes executor =>
          exact now
      | switches executor =>
          exact (now_switch world).trans now

/-- A step keeps the world in line with the log. -/
theorem Follows.step
    (follows : Follows world log)
    (stepped : Stepped world move next)
    (operating : Operating world) :
    Follows next (log.note move) := by
  have activity := stepped.activityStep operating
  have clock := stepped.now_note follows.now
  have sameConfig := stepped.config_eq
  generalize viewIs : next.activityView = view at activity
  have touchIs : next.state.touch = view.touch := congrArg ActivityView.touch viewIs
  have buttonIs : next.state.button = view.button := congrArg ActivityView.button viewIs
  have isActiveIs : next.state.isActive = view.isActive := congrArg ActivityView.isActive viewIs
  have idleIs : next.alarm? .enterIdle = view.idle? := congrArg ActivityView.idle? viewIs
  cases activity with
  | kept quiet =>
      rw [follows.touch, follows.button] at quiet
      obtain ⟨now, noted⟩ := PressLog.note_of_quiet quiet
      rw [noted] at clock ⊢
      refine
        ⟨clock, touchIs.trans follows.touch, buttonIs.trans follows.button, ?_, ?_, ?_⟩
      · intro isPressed
        obtain ⟨isActive, disarmed⟩ := follows.pressed isPressed
        exact ⟨isActiveIs.trans isActive, idleIs.trans disarmed⟩
      · intro alarm armed
        rw [sameConfig]
        exact follows.armed alarm (idleIs.symm.trans armed)
      · intro isActive
        rw [idleIs]
        exact follows.active (isActiveIs.symm.trans isActive)
  | pressed tells held =>
      rw [follows.touch, follows.button] at tells
      rw [PressLog.note_of_tells tells] at clock ⊢
      refine ⟨clock, touchIs, buttonIs, fun _ => ⟨isActiveIs, idleIs⟩, ?_, fun _ => .inl held⟩
      intro alarm armed
      cases idleIs.symm.trans armed
  | released tells free =>
      rw [follows.touch, follows.button] at tells
      rw [PressLog.note_of_tells tells] at clock ⊢
      refine ⟨clock, touchIs, buttonIs, ?_, ?_, ?_⟩
      · intro isPressed
        cases free.symm.trans isPressed
      · intro alarm armed
        cases idleIs.symm.trans armed
        refine ⟨log.now, rfl, ?_⟩
        rw [sameConfig, deadline, follows.now]
        rfl
      · intro _
        rw [idleIs]
        exact .inr rfl
  | idled armed =>
      have noted : log.note .fire = log := rfl
      rw [noted] at clock ⊢
      refine
        ⟨clock, touchIs.trans follows.touch, buttonIs.trans follows.button, ?_, ?_, ?_⟩
      · intro isPressed
        rw [(follows.pressed isPressed).2] at armed
        cases armed
      · intro alarm stillArmed
        cases idleIs.symm.trans stillArmed
      · intro isActive
        cases isActiveIs.symm.trans isActive

/-- In every run the world follows the log. -/
theorem follows_run
    (config : Config)
    (moves : List Move) :
    Follows ((create config).run moves) (.ofMoves moves) := by
  refine
    run_induction (motive := fun moves world => Follows world (.ofMoves moves))
      config ?_ ?_ moves
  · refine ⟨rfl, rfl, rfl, ?_, ?_, ?_⟩
    · intro isPressed
      cases isPressed
    · intro alarm armed
      cases armed
    · intro isActive
      cases isActive
  · intro moves move next operating stepped follows
    rw [PressLog.ofMoves, List.foldl_append]
    exact follows.step stepped operating

/-- Only the idle debounce makes the screen idle. -/
theorem isActive_expire
    (state : State)
    (debounce : Debounce) :
    (state.expire debounce).1.isActive = (debounce != .enterIdle && state.isActive) := by
  cases debounce with
  | enterIdle =>
      rfl
  | exitGesture =>
      rw [State.expire]
      split <;> rfl
  | exitOffscreen =>
      rw [State.expire]
      split <;> rfl

/-- The screen becomes idle only when the idle debounce fires. -/
theorem Stepped.idleFired
    (stepped : Stepped world move next)
    (operating : Operating world)
    (wasActive : world.state.isActive = true)
    (isIdle : next.state.isActive = false) :
    move = .fire ∧
      world.due? = some .enterIdle ∧
        ∃ deadline : Int,
          world.alarm? .enterIdle = some ⟨deadline, .enterIdle⟩ ∧
            deadline ≤ (world.now : Int) := by
  have activity := stepped.activityStep operating
  have isActiveIs : next.activityView.isActive = false := isIdle
  cases stepped with
  | fired debounce deadline due armed reached =>
      have afterFiring : (debounce != .enterIdle && world.state.isActive) = false := by
        rw [← isActive_expire, ← isIdle]
        exact congrArg State.isActive (state_react _ _).symm
      rw [wasActive, Bool.and_true] at afterFiring
      have isEnterIdle : debounce = .enterIdle := by
        simpa using afterFiring
      subst isEnterIdle
      exact ⟨rfl, due, deadline, armed, reached⟩
  | received signal =>
      generalize (world.react (world.state.receive signal)).activityView = view
        at activity isActiveIs
      cases activity with
      | kept quiet =>
          cases wasActive.symm.trans isActiveIs
      | pressed tells held =>
          cases isActiveIs
      | released tells free =>
          cases wasActive.symm.trans isActiveIs
  | elapsed milliseconds =>
      cases wasActive.symm.trans isIdle
  | notFired nothingDue =>
      cases wasActive.symm.trans isIdle
  | worked worked =>
      generalize next.activityView = view at activity isActiveIs
      cases activity with
      | kept quiet =>
          cases wasActive.symm.trans isActiveIs

/-- A step of the loop that makes the screen idle is a firing of the idle debounce. -/
theorem idleFired_loopStep
    {loop : Timer.Loop World}
    {step : Timer.LoopStep Impulse}
    (operating : Operating loop.world)
    (wasActive : loop.world.state.isActive = true)
    (isIdle : (loopHost.step loop step).world.state.isActive = false) :
    step = .turn ∧
      (loopHost.firing? loop).map (fun taken => taken.1.alarm.work) = some .enterIdle ∧
        ∃ deadline : Int,
          loop.world.alarm? .enterIdle = some ⟨deadline, .enterIdle⟩ ∧
            deadline ≤ (loop.world.now : Int) := by
  rw [world_loopStep] at isIdle
  cases step with
  | call impulse =>
      have stepped := stepped_step operating impulse.move
      have isFiring := (stepped.idleFired operating wasActive isIdle).1
      cases impulse <;> cases isFiring
  | elapse =>
      have stepped := stepped_step operating (.elapse 1)
      cases (stepped.idleFired operating wasActive isIdle).1
  | turn =>
      cases firingIs : loopHost.firing? loop with
      | none =>
          simp only [movesOf, firingIs] at isIdle
          cases wasActive.symm.trans isIdle
      | some both =>
          simp only [movesOf, firingIs] at isIdle
          have stepped := stepped_step operating .fire
          obtain ⟨-, due, deadline, armed, reached⟩ :=
            stepped.idleFired operating wasActive isIdle
          obtain ⟨-, taken⟩ := Timer.LoopHost.takeDue?_of_firing?_eq_some firingIs
          have isTaken : loop.world.timers.takeDue? loop.world.now = some both := taken
          refine ⟨rfl, ?_, deadline, armed, reached⟩
          simpa only [due?, isTaken] using due

/-- When the slack time, two milliseconds and the delay have passed, a released screen is idle. -/
theorem Follows.isIdle_of_late
    {behind : Nat}
    (follows : Follows world log)
    (prompt : Prompt behind world)
    {last : Nat}
    (lastAt : log.lastAt? = some last)
    (late : last + world.config.tunables.touchSlack + 2 + behind ≤ world.now)
    (notPressed : log.isPressed = false) :
    world.state.isActive = false := by
  cases isActive : world.state.isActive with
  | false =>
      rfl
  | true =>
      rcases follows.active isActive with isPressed | armed
      · cases notPressed.symm.trans isPressed
      · -- the alarm that is still armed would be too late
        obtain ⟨alarm, found⟩ := Option.isSome_iff_exists.mp armed
        have onTime := prompt.isPunctual.deadline_le found
        obtain ⟨since, sinceAt, deadline⟩ := follows.armed alarm found
        cases lastAt.symm.trans sinceAt
        omega

theorem follows_looped
    (config : Config)
    (steps : List (Timer.LoopStep Impulse)) :
    Follows (looped config steps).world (.ofMoves (movesHeard steps)) := by
  rw [world_looped, ← filter_isHeard_loopMoves (loopHost.begin (create config)),
    PressLog.ofMoves_filter_isHeard]
  exact follows_run config _

/-- The least slack times. -/
def quickText : String :=
  "* 60 120\n- 30 30\n/touchSlackMs 0\n/gestureSlackMs 0\n"

def quickConfig : Config where
  rules := ⟨⟨60, 120⟩, ⟨30, 30⟩, .empty⟩
  tunables := { touchSlack := 100, gestureSlack := 100 }

theorem isPatient_quickConfig : quickConfig.tunables.IsPatient := by
  have accepted : (Config.ofText quickText).outcome = .ok quickConfig := by
    rfl
  exact (Config.bounded_of_accepted accepted).isPatient

/-- A press and its release, while a gesture and a return have just armed their exits. -/
def releaseBehindExits : List (Timer.LoopStep Impulse) :=
  [.call (.receive (.offscreen true)), .call (.receive (.offscreen false)),
      .call (.receive (.inputState ⟨false, false, true⟩)),
      .call (.receive (.inputState ⟨false, false, false⟩)), .turn, .elapse, .turn,
      .call (.receive (.touch true)), .call (.receive (.touch false)), .turn] ++
    (List.replicate 100 [.elapse, .turn]).flatten ++ [.elapse]

/-- The screen was touched, and is still active. -/
structure StaysActive (world : World) : Prop extends Operating world where
  isActive : world.state.isActive = true
  touch : world.state.touch = false
  button : world.state.button = false

/-- The fingers swipe. -/
def swipe : Impulse :=
  .receive (.inputState ⟨false, true, false⟩)

/-- A swipe arms the exit of a gesture and so re-arms the loop, and touches nothing else. -/
theorem StaysActive.swipe
    (stays : StaysActive world) :
    impulseRearms swipe world.later = true ∧ StaysActive (world.later.step World.swipe.move) := by
  have operating := operating_later stays.toOperating
  have received :
      world.later.step World.swipe.move =
        world.later.react (world.later.state.receive (.inputState ⟨false, true, false⟩)) :=
    receive_of_operating operating _
  refine ⟨?_, ?_⟩
  · have withState := wellFormed_withState operating.toWellFormed world.later.state
    exact
      Bool.and_eq_true_iff.mpr
        ⟨operating.isAlive, commandsRearm_eq_any withState [.arm .exitGesture]⟩
  · rw [received]
    refine
      ⟨⟨wellFormed_react operating.toWellFormed _, (isAlive_react _ _).trans operating.isAlive⟩,
        ?_, ?_, ?_⟩
    · exact (congrArg State.isActive (state_react _ _)).trans stays.isActive
    · exact (congrArg State.touch (state_react _ _)).trans stays.touch
    · exact (congrArg State.button (state_react _ _)).trans stays.button

/--
If the fingers swipe in every millisecond before the loop takes its turn, a screen that was
touched stays active without end.
-/
theorem isActive_outrun
    (config : Config)
    (milliseconds : Nat) :
    let steps :=
      [.call (.receive (.touch true)), .call (.receive (.touch false)), .turn] ++
        Timer.LoopHost.outrun swipe milliseconds
    (looped config steps).world.now = milliseconds ∧
      (looped config steps).world.state.touch = false ∧
        (looped config steps).world.state.button = false ∧
          (looped config steps).world.state.isActive = true := by
  intro steps
  have atStart :
      StaysActive
        (looped config
          [.call (.receive (.touch true)), .call (.receive (.touch false)), .turn]).world :=
    ⟨operating_looped config _, rfl, rfl, rfl⟩
  have kept (world : World) (stays : StaysActive world) :
      let later := loopHost.withNow world (loopHost.now world + 1)
      loopHost.callRearms swipe later = true ∧ StaysActive (loopHost.call swipe later) :=
    stays.swipe
  obtain ⟨stays, clock⟩ := Timer.LoopHost.follow_outrun kept milliseconds atStart
  have loopIs :
      looped config steps =
        loopHost.follow
          (looped config
            [.call (.receive (.touch true)), .call (.receive (.touch false)), .turn])
          (Timer.LoopHost.outrun swipe milliseconds) :=
    Timer.LoopHost.follow_append ..
  rw [← loopIs] at stays clock
  exact ⟨clock.trans (Nat.zero_add _), stays.touch, stays.button, stays.isActive⟩

end World

end Controller

end RefreshRate
