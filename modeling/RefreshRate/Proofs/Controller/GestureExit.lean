import Mathlib.Algebra.Ring.Nat
import RefreshRate.Proofs.Controller.Loop
import RefreshRate.Proofs.Controller.Override

namespace RefreshRate

/-!
# The end of a gesture

The exit that lifts the override of a gesture is armed by every state of the fingers that
is no gesture, not only by the one that ends the gesture.  So the slack time counts from the
last of them.  If the loop of the timers comes first, the override ends in time if no more of
them are told, whatever else is.  Swipes that follow each other within the slack time keep it
in effect as long as they come, however the loop takes its turns.
-/

/-- A signal that starts no gesture and tells nothing about being offscreen. -/
def Signal.leavesGestureOver : Signal → Bool
  | .inputState input =>
      !input.inGesture
  | .offscreen _ =>
      false
  | _ =>
      true

namespace Controller

namespace Move

/-- Whether a move tells the state of the fingers. -/
def tellsInput : Move → Bool
  | .receive signal =>
      signal.toldInput?.isSome
  | .elapse _ | .fire | .work =>
      false

/-- The milliseconds that pass in a move. -/
def duration : Move → Nat
  | .elapse milliseconds =>
      milliseconds
  | .receive _ | .fire | .work =>
      0

/-- The time at which the state of the fingers is told last. -/
def lastInputAt
    (now last : Nat) :
    List Move → Nat
  | [] =>
      last
  | move :: rest =>
      lastInputAt (now + move.duration) (if move.tellsInput then now else last) rest

/-- If no further input state is told, the last one is the one before. -/
theorem lastInputAt_of_quiet
    {moves : List Move}
    (quiet : ∀ move ∈ moves, move.tellsInput = false)
    (now last : Nat) :
    lastInputAt now last moves = last := by
  induction moves generalizing now with
  | nil =>
      rfl
  | cons move rest inductionHypothesis =>
      have moveQuiet := quiet move List.mem_cons_self
      rw [lastInputAt, moveQuiet]
      exact inductionHypothesis
        (fun other member => quiet other (List.mem_cons_of_mem move member)) _

/-- Firings and the worker take no time and tell nothing. -/
theorem lastInputAt_filter_isHeard
    (now last : Nat)
    (moves : List Move) :
    lastInputAt now last (moves.filter isHeard) = lastInputAt now last moves := by
  induction moves generalizing now last with
  | nil =>
      rfl
  | cons move rest inductionHypothesis =>
      cases move with
      | receive | elapse | fire | work =>
          exact inductionHypothesis _ _

end Move

namespace World

variable {world next : World} {move : Move} {ended last : Nat}

/-- The gesture has ended: its override waits for its exit, or it has been lifted. -/
inductive GestureEnding
    (world : World)
    (ended last : Nat) :
    Prop where
  | waits
      (override : world.state.override? = some .gesture)
      (armed :
        world.alarm? .exitGesture =
          some ⟨(last + world.config.tunables.gestureSlack : Nat), .exitGesture⟩)
      (notBefore : ended ≤ last)
  | lifted
      (override : world.state.override? = none)
      (late : ended + world.config.tunables.gestureSlack ≤ world.now)

/-- What tells neither about the fingers nor about being offscreen leaves an ending as it is. -/
theorem GestureEnding.step
    (ending : GestureEnding world ended last)
    (operating : Operating world)
    (stepped : Stepped world move next)
    (noInput : move.signal?.bind Signal.toldInput? = none)
    (noOffscreen : move.signal?.bind Signal.toldOffscreen? = none) :
    GestureEnding next ended last := by
  have overrideStep := stepped.overrideStep operating
  have sameConfig := stepped.config_eq
  have clock := stepped.now_le
  generalize viewIs : next.overrideView = view at overrideStep
  have overrideIs : next.state.override? = view.override? :=
    congrArg OverrideView.override? viewIs
  have exitIs : next.alarm? .exitGesture = view.gestureExit? :=
    congrArg OverrideView.gestureExit? viewIs
  have waitsOn
      (override : view.override? = some .gesture)
      (armed :
        view.gestureExit? =
          some ⟨(last + world.config.tunables.gestureSlack : Nat), .exitGesture⟩)
      (notBefore : ended ≤ last) :
      GestureEnding next ended last := by
    rw [← sameConfig] at armed
    exact .waits (overrideIs.trans override) (exitIs.trans armed) notBefore
  have isLifted
      (override : view.override? = none)
      (late : ended + world.config.tunables.gestureSlack ≤ world.now) :
      GestureEnding next ended last := by
    rw [← sameConfig] at late
    exact .lifted (overrideIs.trans override) (Nat.le_trans late clock)
  cases overrideStep with
  | kept =>
      cases ending with
      | waits override armed notBefore =>
          exact waitsOn override armed notBefore
      | lifted override late =>
          exact isLifted override late
  | gestureStarted | gestureEnded =>
      cases noInput
  | wentOffscreen | returned =>
      cases noOffscreen
  | gestureExited deadline due reached =>
      cases ending with
      | waits override armed notBefore =>
          cases armed.symm.trans due
          exact isLifted (if_pos override) (by omega)
      | lifted override late =>
          exact isLifted (by simp [override]) late
  | offscreenExited deadline due reached =>
      cases ending with
      | waits override armed notBefore =>
          exact waitsOn (by simp [override]) armed notBefore
      | lifted override late =>
          exact isLifted (by simp [override]) late

/-- A state of the fingers that is no gesture arms the exit, again if need be. -/
theorem gestureExit_receive
    (operating : Operating world)
    {input : InputState}
    (notInGesture : input.inGesture = false) :
    (world.step (.receive (.inputState input))).state.override? = world.state.override? ∧
      (world.step (.receive (.inputState input))).alarm? .exitGesture =
        some ⟨world.deadline .exitGesture, .exitGesture⟩ := by
  have overrideStep :=
    (stepped_step operating (.receive (.inputState input))).overrideStep operating
  generalize viewIs : (world.step (.receive (.inputState input))).overrideView = view
    at overrideStep
  have overrideIs := congrArg OverrideView.override? viewIs
  have exitIs := congrArg OverrideView.gestureExit? viewIs
  cases overrideStep with
  | kept noInput =>
      cases noInput
  | gestureStarted _ inGesture =>
      cases notInGesture.symm.trans inGesture
  | gestureEnded =>
      exact ⟨overrideIs, exitIs⟩

theorem GestureEnding.receive
    (ending : GestureEnding world ended last)
    (operating : Operating world)
    (afterEnd : ended ≤ world.now)
    {input : InputState}
    (notInGesture : input.inGesture = false) :
    GestureEnding (world.step (.receive (.inputState input))) ended world.now := by
  have stepped := stepped_step operating (.receive (.inputState input))
  obtain ⟨sameOverride, armed⟩ := gestureExit_receive operating notInGesture
  cases ending with
  | waits override =>
      refine .waits (sameOverride.trans override) ?_ afterEnd
      rw [stepped.config_eq]
      exact armed
  | lifted override late =>
      refine .lifted (sameOverride.trans override) ?_
      rw [stepped.config_eq]
      exact Nat.le_trans late stepped.now_le

theorem now_step
    (world : World)
    (move : Move) :
    (world.step move).now = world.now + move.duration := by
  cases move with
  | receive signal =>
      exact now_receive world signal
  | elapse milliseconds =>
      rfl
  | fire =>
      exact now_fireDue world
  | work =>
      exact view_work World.now (fun _ _ => rfl) now_switch world

theorem now_run
    (world : World)
    (moves : List Move) :
    (world.run moves).now = world.now + (moves.map Move.duration).sum := by
  induction moves generalizing world with
  | nil =>
      rfl
  | cons move rest inductionHypothesis =>
      rw [run_cons, inductionHypothesis, now_step, List.map_cons, List.sum_cons, Nat.add_assoc]

/-- The time counts from the last input state, in every move that leaves the gesture over. -/
theorem GestureEnding.afterMove
    (ending : GestureEnding world ended last)
    (operating : Operating world)
    (afterEnd : ended ≤ world.now)
    (undisturbed : ∀ signal, move = .receive signal → signal.leavesGestureOver = true) :
    GestureEnding (world.step move) ended (if move.tellsInput then world.now else last) := by
  have stepped := stepped_step operating move
  cases move with
  | receive signal =>
      have leavesGestureOver := undisturbed signal rfl
      cases signal with
      | inputState input =>
          exact ending.receive operating afterEnd (Bool.not_eq_true' _ ▸ leavesGestureOver)
      | offscreen isOff =>
          cases leavesGestureOver
      | _ =>
          exact ending.step operating stepped rfl rfl
  | elapse | fire | work =>
      exact ending.step operating stepped rfl rfl

theorem GestureEnding.run
    {moves : List Move}
    (ending : GestureEnding world ended last)
    (operating : Operating world)
    (afterEnd : ended ≤ world.now)
    (undisturbed : ∀ signal, .receive signal ∈ moves → signal.leavesGestureOver = true) :
    GestureEnding (world.run moves) ended (Move.lastInputAt world.now last moves) := by
  induction moves generalizing world last with
  | nil =>
      exact ending
  | cons move rest inductionHypothesis =>
      have moveUndisturbed (signal : Signal) (isMove : move = .receive signal) :
          signal.leavesGestureOver = true :=
        undisturbed signal (isMove ▸ List.mem_cons_self)
      have stepped := stepped_step operating move
      have restEnding :=
        inductionHypothesis (ending.afterMove operating afterEnd moveUndisturbed)
          (stepped.operating operating) (Nat.le_trans afterEnd stepped.now_le)
          (fun signal member => undisturbed signal (List.mem_cons_of_mem move member))
      rwa [now_step] at restEnding

section Ended

variable
  {later : List Move}
  {input : InputState}
  (operating : Operating world)
  (notInGesture : input.inGesture = false)
  (inEffect : world.state.override? = some .gesture)
  (undisturbed : ∀ signal, .receive signal ∈ later → signal.leavesGestureOver = true)

include operating notInGesture inEffect undisturbed

/-- An input state that is no gesture is the beginning of the end of the override. -/
theorem gestureEnding_run :
    GestureEnding (world.run (.receive (.inputState input) :: later)) world.now
      (Move.lastInputAt world.now world.now later) := by
  obtain ⟨sameOverride, armed⟩ := gestureExit_receive operating notInGesture
  have stepped := stepped_step operating (.receive (.inputState input))
  have sameNow := now_step world (.receive (.inputState input))
  have ending :
      GestureEnding (world.step (.receive (.inputState input))) world.now world.now := by
    refine .waits (sameOverride.trans inEffect) ?_ (Nat.le_refl _)
    rw [stepped.config_eq]
    exact armed
  have ended := ending.run (stepped.operating operating) stepped.now_le undisturbed
  rwa [sameNow] at ended

theorem override?_eq_gesture_of_lt
    (early : (later.map Move.duration).sum < world.config.tunables.gestureSlack) :
    (world.run (.receive (.inputState input) :: later)).state.override? = some .gesture := by
  have clock := now_run world (.receive (.inputState input) :: later)
  rw [List.map_cons, List.sum_cons, Move.duration, Nat.zero_add] at clock
  cases gestureEnding_run operating notInGesture inEffect undisturbed with
  | waits override =>
      exact override
  | lifted override late =>
      rw [config_run operating, clock] at late
      omega

end Ended

/-- Swipes, each after some moves. -/
def swipes (pauses : List (List Move)) : List Move :=
  pauses.flatMap fun pause => pause ++ [.receive (.inputState ⟨false, true, false⟩)]

/--
Swipes within the slack time of each other put the end of the override off for good, whatever
else happens between them.
-/
theorem override?_outlasts_swipes
    (operating : Operating world)
    {input : InputState}
    (notInGesture : input.inGesture = false)
    (inEffect : world.state.override? = some .gesture)
    {pauses : List (List Move)}
    (undisturbed :
      ∀ pause ∈ pauses, ∀ signal, .receive signal ∈ pause → signal.leavesGestureOver = true)
    (withinSlack :
      ∀ pause ∈ pauses, (pause.map Move.duration).sum < world.config.tunables.gestureSlack) :
    (world.run (.receive (.inputState input) :: swipes pauses)).state.override? =
      some .gesture := by
  induction pauses generalizing world input with
  | nil =>
      exact (gestureExit_receive operating notInGesture).1.trans inEffect
  | cons pause rest inductionHypothesis =>
      have sameRun :
          world.run (.receive (.inputState input) :: swipes (pause :: rest)) =
            (world.run (.receive (.inputState input) :: pause)).run
              (.receive (.inputState ⟨false, true, false⟩) :: swipes rest) := by
        simp [swipes]
      have stillInEffect :=
        override?_eq_gesture_of_lt operating notInGesture inEffect
          (undisturbed pause List.mem_cons_self) (withinSlack pause List.mem_cons_self)
      rw [sameRun]
      refine
        inductionHypothesis (operating_run operating _) rfl stillInEffect
          (fun other member => undisturbed other (List.mem_cons_of_mem pause member)) ?_
      intro other member
      rw [config_run operating]
      exact withinSlack other (List.mem_cons_of_mem pause member)

theorem gestureEnding_looped
    {config : Config}
    {earlier later : List (Timer.LoopStep Impulse)}
    {input : InputState}
    (notInGesture : input.inGesture = false)
    (inEffect : (looped config earlier).world.state.override? = some .gesture)
    (undisturbed :
      ∀ signal, .call (.receive signal) ∈ later → signal.leavesGestureOver = true) :
    GestureEnding
      (looped config (earlier ++ .call (.receive (.inputState input)) :: later)).world
      (looped config earlier).world.now
      (Move.lastInputAt (looped config earlier).world.now (looped config earlier).world.now
        (movesHeard later)) := by
  let loop := loopHost.step (looped config earlier) (.call (.receive (.inputState input)))
  have worldIs :
      (looped config (earlier ++ .call (.receive (.inputState input)) :: later)).world =
        (looped config earlier).world.run
          (.receive (.inputState input) :: loopMoves loop later) := by
    rw [looped, Timer.LoopHost.follow_append, ← looped]
    exact world_follow (looped config earlier) _
  rw [worldIs, ← filter_isHeard_loopMoves loop, Move.lastInputAt_filter_isHeard]
  refine gestureEnding_run (operating_looped config earlier) notInGesture inEffect ?_
  exact fun signal member => undisturbed signal (call_mem_of_receive_mem_loopMoves member)

/--
An input state that is no gesture is told while the gesture override is in effect, and after it
neither does a gesture start nor is anything told about being offscreen.  Then the override stays
in effect for the slack time.  As long as it does, its exit is armed for the slack time after the
last input state, and two milliseconds later at most the override is lifted; the milliseconds in
which the loop was passed over come on top, and there are none if it comes first.  That counts
from the first input state if no other follows.
-/
theorem gesture_override_ends_after_last_input
    {config : Config}
    (isPatient : config.tunables.IsPatient)
    (earlier later : List (Timer.LoopStep Impulse))
    (input : InputState)
    (notInGesture : input.inGesture = false)
    (inEffect : (looped config earlier).world.state.override? = some .gesture)
    (undisturbed :
      ∀ signal, .call (.receive signal) ∈ later → signal.leavesGestureOver = true) :
    let steps := earlier ++ .call (.receive (.inputState input)) :: later
    let ended := (looped config earlier).world.now
    let last := Move.lastInputAt ended ended (movesHeard later)
    let world := (looped config steps).world
    let slack := config.tunables.gestureSlack
    (world.now < ended + slack → world.state.override? = some .gesture) ∧
      (world.state.override? = some .gesture →
        world.alarm? .exitGesture = some ⟨(last + slack : Nat), .exitGesture⟩) ∧
      (last + slack + 2 + (delayOf config steps).total ≤ world.now →
        world.state.override? = none) ∧
      ((∀ move ∈ movesHeard later, move.tellsInput = false) → last = ended) ∧
      (comesFirst config steps = true → (delayOf config steps).total = 0) := by
  intro steps ended last world slack
  have sameConfig : world.config = config := config_looped config steps
  have prompt : Prompt (delayOf config steps).total world := prompt_looped isPatient steps
  have ending : GestureEnding world ended last :=
    gestureEnding_looped notInGesture inEffect undisturbed
  refine ⟨?_, ?_, ?_, fun quiet => Move.lastInputAt_of_quiet quiet _ _, delayOf_total_of_comesFirst⟩
  · intro early
    cases ending with
    | waits override =>
        exact override
    | lifted override late =>
        rw [sameConfig] at late
        exact absurd early (Nat.not_lt.mpr late)
  · intro override
    cases ending with
    | waits _ armed =>
        rw [sameConfig] at armed
        exact armed
    | lifted isLifted =>
        cases override.symm.trans isLifted
  · intro late
    cases ending with
    | waits override armed =>
        -- the exit that is still armed would be too late
        have onTime := prompt.isPunctual.deadline_le armed
        simp only [sameConfig] at onTime
        omega
    | lifted isLifted =>
        exact isLifted

/-- The rules of the sample with the least slack times. -/
def gameText : String :=
  "* 60 120\n- 30 30\ncom.game 90 144\n/touchSlackMs 100\n/gestureSlackMs 100\n"

def gameConfig : Config :=
  { sampleConfig with tunables := { touchSlack := 100, gestureSlack := 100 } }

/-- A gesture in a game. -/
def gestureInGame : List Beat :=
  [.receive (.topApp "com.game"), .receive (.inputState ⟨false, false, true⟩)]

/-- A swipe within the slack time, and some time after it. -/
def swipeAndWait (milliseconds : Nat) : List Beat :=
  List.replicate 80 .tick ++ .receive (.inputState ⟨false, true, false⟩) ::
    List.replicate milliseconds .tick

theorem leavesGestureOver_of_mem_swipeAndWait
    {milliseconds : Nat}
    {signal : Signal}
    (member : .receive signal ∈ swipeAndWait milliseconds) :
    signal.leavesGestureOver = true := by
  rcases List.mem_append.mp member with isEarly | isLate
  · cases List.eq_of_mem_replicate isEarly
  · rcases List.mem_cons.mp isLate with isSwipe | isLater
    · cases isSwipe
      rfl
    · cases List.eq_of_mem_replicate isLater

/-- Two milliseconds after the slack time a swipe has kept the override of a gesture. -/
theorem override?_play_swipeAndWait :
    let ended := (create gameConfig).play gestureInGame
    let later :=
      (create gameConfig).play
        (gestureInGame ++ .receive (.inputState ⟨false, false, false⟩) :: swipeAndWait 22)
    (Config.ofText gameText).outcome = .ok gameConfig ∧
      Move.endsInGesture (gestureInGame.flatMap Beat.moves) = true ∧
      ended.state.override? = some .gesture ∧
      (∀ signal, .receive signal ∈ swipeAndWait 22 → signal.leavesGestureOver = true) ∧
      ended.now + gameConfig.tunables.gestureSlack + 2 ≤ later.now ∧
      later.state.override? = some .gesture ∧
      later.target ≠ (gameConfig.rules.lookup "com.game").pick later.state.isActive := by
  intro ended later
  refine ⟨rfl, rfl, ?_, fun signal => leavesGestureOver_of_mem_swipeAndWait, ?_, ?_, ?_⟩
  all_goals decide +kernel

theorem isPatient_gameConfig : gameConfig.tunables.IsPatient := by
  have accepted : (Config.ofText gameText).outcome = .ok gameConfig := by
    rfl
  exact (Config.bounded_of_accepted accepted).isPatient

/-- The steps of a loop that comes first. -/
def stepsOf (beats : List Beat) : List (Timer.LoopStep Impulse) :=
  beats.flatMap Beat.loopSteps

theorem mem_of_call_mem_stepsOf
    {beats : List Beat}
    {signal : Signal}
    (member : .call (.receive signal) ∈ stepsOf beats) :
    .receive signal ∈ beats := by
  obtain ⟨beat, inBeats, inSteps⟩ := List.mem_flatMap.mp member
  cases beat with
  | receive other =>
      simp only [Beat.loopSteps, List.mem_cons, Timer.LoopStep.call.injEq, Impulse.receive.injEq,
        reduceCtorEq, List.not_mem_nil, or_false] at inSteps
      exact inSteps ▸ inBeats
  | work | tick =>
      simp [Beat.loopSteps] at inSteps

/-- What comes after the end of the gesture. -/
def swipeAfterEnd : List (Timer.LoopStep Impulse) :=
  .turn :: stepsOf (swipeAndWait 102)

/-- If the loop comes first, the slack time after the swipe and two milliseconds are enough. -/
theorem override?_looped_swipeAfterEnd_eq_none :
    let steps :=
      stepsOf gestureInGame ++ .call (.receive (.inputState ⟨false, false, false⟩)) :: swipeAfterEnd
    gameConfig.tunables.IsPatient ∧
      (looped gameConfig (stepsOf gestureInGame)).world.state.override? = some .gesture ∧
        comesFirst gameConfig steps = true ∧
          (looped gameConfig steps).world.now = 80 + 100 + 2 ∧
            (looped gameConfig steps).world.state.override? = none := by
  intro steps
  have inEffect :
      (looped gameConfig (stepsOf gestureInGame)).world.state.override? = some .gesture := by
    decide +kernel
  have undisturbed (signal : Signal) (member : .call (.receive signal) ∈ swipeAfterEnd) :
      signal.leavesGestureOver = true := by
    rcases List.mem_cons.mp member with isTurn | isLater
    · cases isTurn
    · exact leavesGestureOver_of_mem_swipeAndWait (mem_of_call_mem_stepsOf isLater)
  have isFirst : comesFirst gameConfig steps = true := by
    decide +kernel
  have clock : (looped gameConfig steps).world.now = 80 + 100 + 2 := by
    decide +kernel
  have late :
      Move.lastInputAt 0 0 (movesHeard swipeAfterEnd) + gameConfig.tunables.gestureSlack + 2 + 0 ≤
        (looped gameConfig steps).world.now := by
    decide +kernel
  have ended : (looped gameConfig (stepsOf gestureInGame)).world.now = 0 := by
    decide +kernel
  obtain ⟨-, -, lifted, -, noDelay⟩ :=
    gesture_override_ends_after_last_input isPatient_gameConfig (stepsOf gestureInGame)
      swipeAfterEnd ⟨false, false, false⟩ rfl inEffect undisturbed
  have stepsIs :
      steps =
        stepsOf gestureInGame ++
          .call (.receive (.inputState ⟨false, false, false⟩)) :: swipeAfterEnd :=
    rfl
  -- from here on the steps need not be computed any more
  clear_value steps
  rw [← stepsIs] at noDelay lifted
  rw [noDelay isFirst, ended] at lifted
  exact ⟨isPatient_gameConfig, inEffect, isFirst, clock, lifted late⟩

end World

end Controller

end RefreshRate
