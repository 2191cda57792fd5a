import RefreshRate.Proofs.Controller.Run

namespace RefreshRate

/-!
# Overrides have a cause

The gesture override and the offscreen override share one place in the state,
and each has an exit that is debounced.  Six kinds of move touch them; all other
moves keep the override and both exits as they are.  From these six it follows
that an override never outlasts its cause without an exit that is armed.
-/

/-- The state of the fingers that a signal tells. -/
def Signal.toldInput? : Signal → Option InputState
  | .inputState input =>
      some input
  | _ =>
      none

/-- The edge that a signal tells: whether the device has gone offscreen. -/
def Signal.toldOffscreen? : Signal → Option Bool
  | .offscreen isOff =>
      some isOff
  | _ =>
      none

namespace Controller

/-- An override that is still there after an exit is not the one that the exit lifts. -/
theorem Override.eq_and_ne_of_exit
    {override? : Option Override}
    {exited left : Override}
    (stillThere : (if override? = some exited then none else override?) = some left) :
    override? = some left ∧ left ≠ exited := by
  split at stillThere
  · cases stillThere
  · rename_i notExited
    refine ⟨stillThere, ?_⟩
    rintro rfl
    exact notExited stillThere

/-- Whether the last state of the fingers that was told is a gesture. -/
def Move.endsInGesture (moves : List Move) : Bool :=
  (lastOf? Signal.toldInput? moves).elim false InputState.inGesture

/-- The part of the world that decides about overrides. -/
structure OverrideView where
  override? : Option Override
  isOffscreen : Bool
  gestureExit? : Option (Timer.Alarm Debounce)
  offscreenExit? : Option (Timer.Alarm Debounce)

/-- Each override has its cause or its exit, and no exit is armed beside its cause. -/
structure OverrideView.Backed
    (view : OverrideView)
    (inGesture : Bool) :
    Prop where
  gesture :
    view.override? = some .gesture →
      inGesture = true ∨ view.gestureExit?.isSome = true
  offscreen :
    view.override? = some .offscreen →
      view.isOffscreen = true ∨ view.offscreenExit?.isSome = true
  gestureDisarmed :
    inGesture = true → view.gestureExit?.isSome = false
  offscreenDisarmed :
    view.isOffscreen = true → view.offscreenExit?.isSome = false

namespace Move

/-- A signal that does not tell the state of the fingers leaves the gesture as it is. -/
theorem endsInGesture_concat_of_noInput
    (moves : List Move)
    {move : Move}
    (noInput : move.signal?.bind Signal.toldInput? = none) :
    endsInGesture (moves ++ [move]) = endsInGesture moves := by
  rw [endsInGesture, lastOf?_concat, noInput]
  rfl

theorem endsInGesture_concat_inputState
    (moves : List Move)
    (input : InputState) :
    endsInGesture (moves ++ [.receive (.inputState input)]) = input.inGesture := by
  rw [endsInGesture, lastOf?_concat]
  rfl

end Move

namespace World

/-- The override, its causes and its exits. -/
def overrideView (world : World) : OverrideView where
  override? := world.state.override?
  isOffscreen := world.state.isOffscreen
  gestureExit? := world.alarm? .exitGesture
  offscreenExit? := world.alarm? .exitOffscreen

/-- What a move can do to overrides and their exits. -/
inductive OverrideStep (world : World) : Move → OverrideView → Prop where
  | kept
      {move : Move}
      (noInput : move.signal?.bind Signal.toldInput? = none)
      (noEdge :
        ∀ isOff,
          move.signal?.bind Signal.toldOffscreen? = some isOff →
            isOff = world.state.isOffscreen) :
      OverrideStep world move world.overrideView
  | gestureStarted
      (input : InputState)
      (inGesture : input.inGesture = true) :
      OverrideStep world (.receive (.inputState input))
        { world.overrideView with
          override? := some .gesture
          gestureExit? := none }
  | gestureEnded
      (input : InputState)
      (notInGesture : input.inGesture = false) :
      OverrideStep world (.receive (.inputState input))
        { world.overrideView with
          gestureExit? := some ⟨world.deadline .exitGesture, .exitGesture⟩ }
  | wentOffscreen
      (wasOnscreen : world.state.isOffscreen = false) :
      OverrideStep world (.receive (.offscreen true))
        { world.overrideView with
          override? := some .offscreen
          isOffscreen := true
          offscreenExit? := none }
  | returned
      (wasOffscreen : world.state.isOffscreen = true) :
      OverrideStep world (.receive (.offscreen false))
        { world.overrideView with
          isOffscreen := false
          offscreenExit? := some ⟨world.deadline .exitOffscreen, .exitOffscreen⟩ }
  | gestureExited
      (deadline : Int)
      (armed : world.alarm? .exitGesture = some ⟨deadline, .exitGesture⟩)
      (reached : deadline ≤ (world.now : Int)) :
      OverrideStep world .fire
        { world.overrideView with
          override? :=
            if world.state.override? = some .gesture then none else world.state.override?
          gestureExit? := none }
  | offscreenExited
      (deadline : Int)
      (armed : world.alarm? .exitOffscreen = some ⟨deadline, .exitOffscreen⟩)
      (reached : deadline ≤ (world.now : Int)) :
      OverrideStep world .fire
        { world.overrideView with
          override? :=
            if world.state.override? = some .offscreen then none else world.state.override?
          offscreenExit? := none }

theorem OverrideStep.kept_of_untold
    {world : World}
    {move : Move}
    (noInput : move.signal?.bind Signal.toldInput? = none)
    (noOffscreen : move.signal?.bind Signal.toldOffscreen? = none) :
    OverrideStep world move world.overrideView := by
  refine .kept noInput ?_
  intro isOff told
  cases noOffscreen.symm.trans told

/-- A press or a release keeps overrides and their exits. -/
theorem overrideView_react_onInput
    {world : World}
    (wellFormed : WellFormed world)
    (state : State)
    (sameOverride : state.override? = world.state.override?)
    (sameOffscreen : state.isOffscreen = world.state.isOffscreen) :
    (world.react state.onInput).overrideView = world.overrideView := by
  simp only [overrideView, state_react, alarm?_react wellFormed, State.onInput]
  split
  · simp [sameOverride, sameOffscreen, Command.alarmAfter?]
  · simp [sameOverride, sameOffscreen, Command.alarmAfter?]

/-- What a signal does to overrides and their exits. -/
theorem overrideStep_receive
    {world : World}
    (wellFormed : WellFormed world)
    (signal : Signal) :
    OverrideStep world (.receive signal)
      (world.react (world.state.receive signal)).overrideView := by
  cases signal with
  | touch pressed =>
      rw [State.receive,
        overrideView_react_onInput wellFormed { world.state with touch := pressed } rfl rfl]
      exact .kept_of_untold rfl rfl
  | button pressed =>
      rw [State.receive,
        overrideView_react_onInput wellFormed { world.state with button := pressed } rfl rfl]
      exact .kept_of_untold rfl rfl
  | inputState input =>
      cases inGesture : input.inGesture with
      | true =>
          have started :
              (world.react (world.state.receive (.inputState input))).overrideView =
                { world.overrideView with
                  override? := some .gesture
                  gestureExit? := none } := by
            simp [overrideView, alarm?_react wellFormed, State.receive, State.onInputState,
              inGesture, Command.alarmAfter?]
          rw [started]
          exact .gestureStarted input inGesture
      | false =>
          have ended :
              (world.react (world.state.receive (.inputState input))).overrideView =
                { world.overrideView with
                  gestureExit? := some ⟨world.deadline .exitGesture, .exitGesture⟩ } := by
            simp [overrideView, alarm?_react wellFormed, State.receive, State.onInputState,
              inGesture, Command.alarmAfter?]
          rw [ended]
          exact .gestureEnded input inGesture
  | topApp app =>
      have unchanged :
          (world.react (world.state.receive (.topApp app))).overrideView =
            world.overrideView := by
        simp only [overrideView, state_react, alarm?_react wellFormed, State.receive,
          State.onTopApp]
        split
        · rfl
        · rfl
      rw [unchanged]
      exact .kept_of_untold rfl rfl
  | offscreen isOff =>
      by_cases repeated : isOff = world.state.isOffscreen
      · have unchanged :
            (world.react (world.state.receive (.offscreen isOff))).overrideView =
              world.overrideView := by
          simp [overrideView, alarm?_react wellFormed, State.receive, State.onOffscreen,
            repeated]
        rw [unchanged]
        refine .kept rfl ?_
        rintro _ ⟨⟩
        exact repeated
      · cases isOff with
        | true =>
            have wasOnscreen : world.state.isOffscreen = false := by
              simpa using repeated
            have left :
                (world.react (world.state.receive (.offscreen true))).overrideView =
                  { world.overrideView with
                    override? := some .offscreen
                    isOffscreen := true
                    offscreenExit? := none } := by
              simp [overrideView, alarm?_react wellFormed, State.receive, State.onOffscreen,
                wasOnscreen, State.raiseForce, Command.alarmAfter?]
            rw [left]
            exact .wentOffscreen wasOnscreen
        | false =>
            have wasOffscreen : world.state.isOffscreen = true := by
              simpa using repeated
            have returned :
                (world.react (world.state.receive (.offscreen false))).overrideView =
                  { world.overrideView with
                    isOffscreen := false
                    offscreenExit? :=
                      some ⟨world.deadline .exitOffscreen, .exitOffscreen⟩ } := by
              simp [overrideView, alarm?_react wellFormed, State.receive, State.onOffscreen,
                wasOffscreen, Command.alarmAfter?]
            rw [returned]
            exact .returned wasOffscreen
  | cgroup group tasks =>
      exact .kept_of_untold rfl rfl

/-- What an alarm that fires does to overrides and their exits. -/
theorem overrideStep_fired
    {world : World}
    (wellFormed : WellFormed world)
    {debounce : Debounce}
    {deadline : Int}
    (armed : world.alarm? debounce = some ⟨deadline, debounce⟩)
    (reached : deadline ≤ (world.now : Int)) :
    OverrideStep world .fire (world.fired debounce).overrideView := by
  have ready := wellFormed_carryOut wellFormed (.cancel debounce)
  have taken (other : Debounce) :
      (world.carryOut (.cancel debounce)).alarm? other =
        if debounce = other then none else world.alarm? other :=
    alarm?_carryOut wellFormed (.cancel debounce) other
  cases debounce with
  | enterIdle =>
      have unchanged : (world.fired .enterIdle).overrideView = world.overrideView := by
        simp [overrideView, fired, alarm?_react ready, State.expire, taken,
          Command.alarmAfter?]
      rw [unchanged]
      exact .kept_of_untold rfl rfl
  | exitGesture =>
      have exited :
          (world.fired .exitGesture).overrideView =
            { world.overrideView with
              override? :=
                if world.state.override? = some .gesture then none else world.state.override?
              gestureExit? := none } := by
        simp only [overrideView, fired, state_react, alarm?_react ready, State.expire]
        split
        · simp [taken, Command.alarmAfter?]
        · simp [taken]
      rw [exited]
      exact .gestureExited deadline armed reached
  | exitOffscreen =>
      have exited :
          (world.fired .exitOffscreen).overrideView =
            { world.overrideView with
              override? :=
                if world.state.override? = some .offscreen then none else world.state.override?
              offscreenExit? := none } := by
        simp only [overrideView, fired, state_react, alarm?_react ready, State.expire]
        split
        · simp [taken, Command.alarmAfter?, State.raiseForce]
        · simp [taken]
      rw [exited]
      exact .offscreenExited deadline armed reached

/-- Every step of a controller does one of the listed things to overrides. -/
theorem Stepped.overrideStep
    {world next : World}
    {move : Move}
    (stepped : Stepped world move next)
    (operating : Operating world) :
    OverrideStep world move next.overrideView := by
  cases stepped with
  | received signal =>
      exact overrideStep_receive operating.toWellFormed signal
  | elapsed milliseconds =>
      exact .kept_of_untold rfl rfl
  | notFired nothingDue =>
      exact .kept_of_untold rfl rfl
  | fired debounce deadline due armed reached =>
      exact overrideStep_fired operating.toWellFormed armed reached
  | worked worked =>
      cases worked with
      | goesOn executor =>
          exact .kept_of_untold rfl rfl
      | takes executor =>
          exact .kept_of_untold rfl rfl
      | switches executor =>
          have unchanged :
              ({ world.switch with executor } : World).overrideView = world.overrideView := by
            simp only [overrideView, World.alarm?, timers_switch]
            unfold switch
            split <;> rfl
          rw [unchanged]
          exact .kept_of_untold rfl rfl

/-- A step keeps every override backed. -/
theorem OverrideStep.backed
    {world : World}
    {moves : List Move}
    {move : Move}
    {view : OverrideView}
    (overrideStep : OverrideStep world move view)
    (backed : world.overrideView.Backed (Move.endsInGesture moves)) :
    view.Backed (Move.endsInGesture (moves ++ [move])) := by
  cases overrideStep with
  | kept noInput noEdge =>
      rw [Move.endsInGesture_concat_of_noInput moves noInput]
      exact backed
  | gestureStarted input inGesture =>
      rw [Move.endsInGesture_concat_inputState, inGesture]
      refine ⟨fun _ => .inl rfl, ?_, fun _ => rfl, backed.offscreenDisarmed⟩
      rintro ⟨⟩
  | gestureEnded input notInGesture =>
      rw [Move.endsInGesture_concat_inputState, notInGesture]
      refine ⟨fun _ => .inr rfl, backed.offscreen, ?_, backed.offscreenDisarmed⟩
      rintro ⟨⟩
  | wentOffscreen wasOnscreen =>
      rw [Move.endsInGesture_concat_of_noInput moves rfl]
      refine ⟨?_, fun _ => .inl rfl, backed.gestureDisarmed, fun _ => rfl⟩
      rintro ⟨⟩
  | returned wasOffscreen =>
      rw [Move.endsInGesture_concat_of_noInput moves rfl]
      refine ⟨backed.gesture, fun _ => .inr rfl, backed.gestureDisarmed, ?_⟩
      rintro ⟨⟩
  | gestureExited deadline armed reached =>
      rw [Move.endsInGesture_concat_of_noInput moves rfl]
      refine ⟨?_, ?_, fun _ => rfl, backed.offscreenDisarmed⟩
      · intro stillGesture
        exact absurd rfl (Override.eq_and_ne_of_exit stillGesture).2
      · intro stillOffscreen
        exact backed.offscreen (Override.eq_and_ne_of_exit stillOffscreen).1
  | offscreenExited deadline armed reached =>
      rw [Move.endsInGesture_concat_of_noInput moves rfl]
      refine ⟨?_, ?_, backed.gestureDisarmed, fun _ => rfl⟩
      · intro stillGesture
        exact backed.gesture (Override.eq_and_ne_of_exit stillGesture).1
      · intro stillOffscreen
        exact absurd rfl (Override.eq_and_ne_of_exit stillOffscreen).2

/-- In every run every override is backed. -/
theorem backed_run
    (config : Config)
    (moves : List Move) :
    ((create config).run moves).overrideView.Backed (Move.endsInGesture moves) := by
  refine
    run_induction
      (motive := fun moves world => world.overrideView.Backed (Move.endsInGesture moves))
      config ?_ ?_ moves
  · refine ⟨?_, ?_, ?_, ?_⟩
    all_goals
      intro holds
      cases holds
  · intro moves move next operating stepped backed
    exact (stepped.overrideStep operating).backed backed

/-- An alarm that fires changes the override only after the cause of the override has ended. -/
theorem OverrideStep.causeEnded_of_fire
    {world : World}
    {view : OverrideView}
    {inGesture : Bool}
    (overrideStep : OverrideStep world .fire view)
    (backed : world.overrideView.Backed inGesture)
    (changed : view.override? ≠ world.state.override?) :
    world.state.override? = some .gesture ∧ inGesture = false ∨
      world.state.override? = some .offscreen ∧ world.state.isOffscreen = false := by
  cases overrideStep with
  | kept noInput noEdge =>
      exact absurd rfl changed
  | gestureExited deadline armed reached =>
      refine .inl ⟨?_, ?_⟩
      · by_contra notGesture
        exact changed (if_neg notGesture)
      · cases inGesture with
        | false =>
            rfl
        | true =>
            have disarmed := backed.gestureDisarmed rfl
            simp [overrideView, armed] at disarmed
  | offscreenExited deadline armed reached =>
      refine .inr ⟨?_, ?_⟩
      · by_contra notOffscreen
        exact changed (if_neg notOffscreen)
      · cases isOffscreen : world.state.isOffscreen with
        | false =>
            rfl
        | true =>
            have disarmed := backed.offscreenDisarmed isOffscreen
            simp [overrideView, armed] at disarmed

/--
No override is stuck: each has its cause or an exit that is armed.  No exit is
armed beside its cause, so an exit from before a re-entry is gone by then, and an
alarm that fires changes an override only after its cause has ended.
-/
theorem override_has_cause_or_exit
    (config : Config)
    (moves : List Move) :
    let world := (create config).run moves
    (world.state.override? = some .gesture →
        Move.endsInGesture moves = true ∨ world.isArmed .exitGesture = true) ∧
      (world.state.override? = some .offscreen →
        world.state.isOffscreen = true ∨ world.isArmed .exitOffscreen = true) ∧
      (Move.endsInGesture moves = true → world.isArmed .exitGesture = false) ∧
      (world.state.isOffscreen = true → world.isArmed .exitOffscreen = false) ∧
      ((world.step .fire).state.override? ≠ world.state.override? →
        world.state.override? = some .gesture ∧ Move.endsInGesture moves = false ∨
          world.state.override? = some .offscreen ∧ world.state.isOffscreen = false) := by
  intro world
  have backed := backed_run config moves
  have operating := operating_run (operating_create config) moves
  refine
    ⟨backed.gesture, backed.offscreen, backed.gestureDisarmed, backed.offscreenDisarmed, ?_⟩
  exact ((stepped_step operating .fire).overrideStep operating).causeEnded_of_fire backed

end World

end Controller

end RefreshRate
