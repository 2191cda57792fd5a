import RefreshRate.Proofs.Controller.Activity
import RefreshRate.Proofs.Controller.Override
import RefreshRate.Proofs.Controller.Ready
import RefreshRate.Proofs.Controller.Switching

namespace RefreshRate.Controller

/-!
# A controller that is left alone comes to rest

Without signals nothing is armed any more, and every alarm that is armed fires when
its time has come.  Two milliseconds after the longer slack time the last alarm has
fired, whatever was armed and in whatever order.  What was still active then was
pressed, and what was still overridden has a cause, so without press and cause the
idle value of the app on top is what remains.
-/

/-- What signals tell the controller, and nothing else changes. -/
structure Inputs where
  touch : Bool
  button : Bool
  app : String
  isOffscreen : Bool

def State.inputs (state : State) : Inputs where
  touch := state.touch
  button := state.button
  app := state.app
  isOffscreen := state.isOffscreen

theorem State.inputs_expire
    (state : State)
    (debounce : Debounce) :
    (state.expire debounce).1.inputs = state.inputs := by
  cases debounce with
  | enterIdle =>
      rfl
  | exitGesture =>
      rw [expire]
      split
      · rfl
      · rfl
  | exitOffscreen =>
      rw [expire]
      split
      · rfl
      · rfl

theorem Debounce.slack_le_max
    (debounce : Debounce)
    (tunables : Tunables) :
    debounce.slack tunables ≤ max tunables.touchSlack tunables.gestureSlack := by
  cases debounce with
  | enterIdle =>
      exact Nat.le_max_left _ _
  | exitGesture =>
      exact Nat.le_max_right _ _
  | exitOffscreen =>
      exact Nat.le_max_right _ _

namespace Move

/-- Whether moves bring no signal. -/
def AllSilent (moves : List Move) : Prop :=
  ∀ move ∈ moves, move.signal? = none

theorem endsInGesture_append_of_allSilent
    (moves : List Move)
    {later : List Move}
    (silent : AllSilent later) :
    endsInGesture (moves ++ later) = endsInGesture moves := by
  have nothingTold :
      later.filterMap (fun move => move.signal?.bind Signal.toldInput?) = [] := by
    refine List.filterMap_eq_nil_iff.mpr fun move member => ?_
    rw [silent move member]
    rfl
  simp only [endsInGesture, lastOf?, List.filterMap_append, nothingTold, List.append_nil]

end Move

namespace World

variable {world next : World} {move : Move}

theorem Stepped.inputs_eq
    (stepped : Stepped world move next)
    (silent : move.signal? = none) :
    next.state.inputs = world.state.inputs := by
  cases stepped with
  | received signal =>
      cases silent
  | elapsed milliseconds =>
      rfl
  | notFired nothingDue =>
      rfl
  | fired debounce deadline due armed reached =>
      have stateAfter : (world.fired debounce).state = (world.state.expire debounce).1 :=
        state_react _ _
      rw [stateAfter]
      exact world.state.inputs_expire debounce
  | worked worked =>
      cases worked with
      | goesOn executor =>
          rfl
      | takes executor =>
          rfl
      | switches executor =>
          simp only [switch]
          split
          · rfl
          · rfl

theorem inputs_run_of_allSilent
    (operating : Operating world)
    {moves : List Move}
    (silent : Move.AllSilent moves) :
    (world.run moves).state.inputs = world.state.inputs := by
  refine
    run_invariant
      (motive := fun later => later.state.inputs = world.state.inputs)
      ?_ operating silent rfl
  intro before after move _ stepped isSilent same
  exact (stepped.inputs_eq isSilent).trans same

/-- Once a switch was done the gate remembers a value. -/
theorem Stepped.isSome_lastApplied
    (stepped : Stepped world move next)
    (operating : Operating world)
    (before :
      ∀ value forced,
        .switched value forced ∈ world.history →
          world.state.gate.lastApplied.isSome = true)
    {value : Int}
    {forced : Bool}
    (switched : .switched value forced ∈ next.history) :
    next.state.gate.lastApplied.isSome = true := by
  cases stepped with
  | received signal =>
      have heeds := State.heeds_receive world.state signal
      rw [history_react] at switched
      rw [state_react, heeds.lastApplied]
      exact before value forced switched
  | elapsed milliseconds =>
      exact before value forced switched
  | notFired nothingDue =>
      exact before value forced switched
  | fired debounce deadline due armed reached =>
      have heeds := State.heeds_expire world.state debounce
      have sameHistory : (world.fired debounce).history = world.history := history_react _ _
      have stateAfter : (world.fired debounce).state = (world.state.expire debounce).1 :=
        state_react _ _
      rw [sameHistory] at switched
      rw [stateAfter, heeds.lastApplied]
      exact before value forced switched
  | worked worked =>
      cases worked with
      | goesOn executor =>
          exact before value forced switched
      | takes executor =>
          exact before value forced switched
      | switches executor =>
          have gateAfter := gate_switch operating.isAlive
          exact congrArg (fun gate => gate.lastApplied.isSome) gateAfter

theorem isSome_lastApplied_run
    (config : Config)
    (moves : List Move)
    {value : Int}
    {forced : Bool}
    (switched : .switched value forced ∈ ((create config).run moves).history) :
    ((create config).run moves).state.gate.lastApplied.isSome = true := by
  refine
    run_induction
      (motive := fun _ world =>
        ∀ value forced,
          .switched value forced ∈ world.history →
            world.state.gate.lastApplied.isSome = true)
      config ?_ ?_ moves value forced switched
  · intro value forced switched
    cases switched
  · intro moves move next operating stepped before value forced switched
    exact stepped.isSome_lastApplied operating before switched

/-- Beat by beat the timers run empty. -/
theorem runsEmpty_play
    {limit : Nat}
    (operating : Operating world)
    {beats : List Beat}
    (silent : ∀ beat ∈ beats, beat.isSilent = true)
    (runsEmpty : world.timers.RunsEmpty limit world.now (beats.count .tick)) :
    (world.play beats).timers.RunsEmpty limit (world.play beats).now 0 := by
  induction beats generalizing world with
  | nil =>
      exact runsEmpty
  | cons beat rest inductionHypothesis =>
      have restSilent : ∀ beat ∈ rest, beat.isSilent = true :=
        fun other member => silent other (List.mem_cons_of_mem beat member)
      have operatingNext : Operating (world.beat beat) := operating_play operating [beat]
      have played := played_beat operating beat
      rw [play_cons]
      refine inductionHypothesis operatingNext restSilent ?_
      generalize world.beat beat = next at played
      cases played with
      | received signal =>
          cases silent _ List.mem_cons_self
      | worked worked =>
          rw [List.count_cons_of_ne (by decide)] at runsEmpty
          cases worked with
          | goesOn executor =>
              exact runsEmpty
          | takes executor =>
              exact runsEmpty
          | switches executor =>
              simp only [timers_switch, now_switch]
              exact runsEmpty
      | idled nothingDue =>
          rw [List.count_cons_self] at runsEmpty
          exact runsEmpty.of_nothingDue nothingDue
      | fired firing timers taken own =>
          rw [List.count_cons_self] at runsEmpty
          have remaining := runsEmpty.takeDue? taken
          obtain ⟨-, -, rfl⟩ := Timer.Table.takeDue?_eq_some taken
          have clock : (world.later.fired firing.alarm.work).now = world.now + 1 :=
            now_react _ _
          rw [timers_fired (operating_later operating).toWellFormed, ← own, clock]
          exact remaining

theorem noneArmed_of_passes
    {limit milliseconds : Nat}
    (operating : Operating world)
    (runsEmpty : world.timers.RunsEmpty limit world.now milliseconds)
    (passes : Passes world milliseconds next)
    (debounce : Debounce) :
    next.alarm? debounce = none := by
  obtain ⟨beats, silent, rfl, rfl⟩ := passes
  exact (runsEmpty_play operating silent runsEmpty).alarm?_eq_none debounce.handle

/-- In every run the longer slack time and two milliseconds are enough for all alarms. -/
theorem runsEmpty_run
    {config : Config}
    (isPatient : config.tunables.IsPatient)
    (moves : List Move)
    {milliseconds : Nat}
    (longEnough :
      max config.tunables.touchSlack config.tunables.gestureSlack + 2 ≤ milliseconds) :
    let world := (create config).run moves
    world.timers.RunsEmpty
      (world.now + max config.tunables.touchSlack config.tunables.gestureSlack)
      world.now milliseconds := by
  intro world
  have operating : Operating world := operating_run (operating_create config) moves
  constructor
  · intro handle alarm found
    have own : alarm.work.handle = handle := operating.ownSlot found
    have armed : world.alarm? alarm.work = some alarm := by
      rw [alarm?, own]
      exact found
    have soon :
        alarm.deadline ≤ ((world.now + alarm.work.slack config.tunables : Nat) : Int) :=
      deadline_le_run config moves alarm.work armed
    have slackLe := alarm.work.slack_le_max config.tunables
    omega
  · -- of three alarms two may have to wait, for a millisecond each
    have positive := isPatient .enterIdle
    have fewArmed := world.timers.armed_le_size
    have slots : world.timers.size = 3 := operating.timerSlots
    simp only [Debounce.slack] at positive
    omega

/-- When nothing is armed, letting time pass only moves the clock. -/
theorem advance_of_noneArmed
    (wellFormed : WellFormed world)
    (noneArmed : ∀ debounce, world.alarm? debounce = none)
    (milliseconds : Nat) :
    world.advance milliseconds = { world with now := world.now + milliseconds } := by
  have asleep : world.timers.nextWakeUp? world.now = none := by
    unfold Timer.Table.nextWakeUp?
    cases found : world.timers.earliest? with
    | none =>
        rfl
    | some firing =>
        have armed := Timer.Table.alarm?_of_earliest?_eq_some found
        have own := wellFormed.ownSlot armed
        have notArmed := noneArmed firing.alarm.work
        rw [alarm?, own, armed] at notArmed
        cases notArmed
  have unchanged : host.advance (world.now + milliseconds) world.now world = world :=
    host.advance_of_asleep asleep
  simp only [advance, unchanged]

section Disarmed

variable
  (config : Config)
  {moves : List Move}

/-- What is neither pressed nor about to become idle is idle. -/
theorem isActive_eq_false_of_disarmed
    (notTouched : ((create config).run moves).state.touch = false)
    (notPressed : ((create config).run moves).state.button = false)
    (disarmed : ((create config).run moves).alarm? .enterIdle = none) :
    ((create config).run moves).state.isActive = false := by
  have follows := follows_run config moves
  cases isActive : ((create config).run moves).state.isActive with
  | false =>
      rfl
  | true =>
      rcases follows.active isActive with isPressed | armed
      · rw [PressLog.isPressed, ← follows.touch, ← follows.button, notTouched,
          notPressed] at isPressed
        cases isPressed
      · rw [disarmed] at armed
        cases armed

/-- Without a cause and without an exit there is no override. -/
theorem override?_eq_none_of_disarmed
    (notInGesture : Move.endsInGesture moves = false)
    (isOnscreen : ((create config).run moves).state.isOffscreen = false)
    (gestureDisarmed : ((create config).run moves).alarm? .exitGesture = none)
    (offscreenDisarmed : ((create config).run moves).alarm? .exitOffscreen = none) :
    ((create config).run moves).state.override? = none := by
  have backed := backed_run config moves
  cases override : ((create config).run moves).state.override? with
  | none =>
      rfl
  | some kind =>
      cases kind with
      | gesture =>
          rcases backed.gesture override with inGesture | armed
          · cases notInGesture.symm.trans inGesture
          · simp [overrideView, gestureDisarmed] at armed
      | offscreen =>
          rcases backed.offscreen override with isOffscreen | armed
          · cases isOnscreen.symm.trans isOffscreen
          · simp [overrideView, offscreenDisarmed] at armed

end Disarmed

theorem target_of_idle
    (isIdle : world.state.isActive = false)
    (noOverride : world.state.override? = none) :
    world.target = (world.config.rules.lookup world.state.app).idle := by
  simp only [target, State.target, State.rule, noOverride, isIdle, Rule.pick,
    Bool.false_eq_true, if_false]

/-- Once a switch was done and none is on its way, the gate remembers the target. -/
theorem lastApplied_of_switched
    (config : Config)
    (moves : List Move)
    (resting : ((create config).run moves).isSwitching = false)
    {value : Int}
    {forced : Bool}
    (switched : .switched value forced ∈ ((create config).run moves).history) :
    ((create config).run moves).state.gate.lastApplied =
      some ((create config).run moves).target := by
  rcases (upToDate_run config moves).lastApplied resting with ⟨-, fresh⟩ | applied
  · have remembers := isSome_lastApplied_run config moves switched
    rw [fresh.gate] at remembers
    cases remembers
  · exact applied

/--
A controller that is left alone comes to rest: when the longer slack time and two
milliseconds have passed without press, gesture and absence, the screen is idle,
nothing overrides the app on top, nothing is armed, and the display has the idle value
of that app if a switch was ever done.  From then on nothing fires any more.
-/
theorem advance_settle_comes_to_rest
    {config : Config}
    (isPatient : config.tunables.IsPatient)
    (moves : List Move)
    (notTouched : ((create config).run moves).state.touch = false)
    (notPressed : ((create config).run moves).state.button = false)
    (notInGesture : Move.endsInGesture moves = false)
    (isOnscreen : ((create config).run moves).state.isOffscreen = false)
    {milliseconds : Nat}
    (longEnough :
      max config.tunables.touchSlack config.tunables.gestureSlack + 2 ≤ milliseconds) :
    let world := (create config).run moves
    let after := (world.advance milliseconds).settle
    after.state.isActive = false ∧
      after.state.override? = none ∧
      (∀ debounce, after.isArmed debounce = false) ∧
      after.isSwitching = false ∧
      after.state.app = world.state.app ∧
      after.target = (config.rules.lookup world.state.app).idle ∧
      (∀ value forced,
        .switched value forced ∈ after.history →
          after.state.gate.lastApplied = some after.target) ∧
      ∀ more, after.advance more = { after with now := after.now + more } := by
  intro world after
  have operating : Operating world := operating_run (operating_create config) moves
  have passes : Passes world milliseconds after :=
    (passes_advance world milliseconds).trans (passes_settle _)
  have noneArmed : ∀ debounce, after.alarm? debounce = none :=
    noneArmed_of_passes operating (runsEmpty_run isPatient moves longEnough) passes
  obtain ⟨more, noSignals, moved⟩ := passes.leads
  have silent : Move.AllSilent more := List.filterMap_eq_nil_iff.mp noSignals
  have isRun : after = (create config).run (moves ++ more) := by
    rw [run_append]
    exact moved
  have sameInputs : after.state.inputs = world.state.inputs := by
    rw [moved]
    exact inputs_run_of_allSilent operating silent
  have sameApp : after.state.app = world.state.app := congrArg Inputs.app sameInputs
  have isIdle : after.state.isActive = false := by
    have stillNotTouched := (congrArg Inputs.touch sameInputs).trans notTouched
    have stillNotPressed := (congrArg Inputs.button sameInputs).trans notPressed
    have disarmed := noneArmed .enterIdle
    rw [isRun] at stillNotTouched stillNotPressed disarmed ⊢
    exact isActive_eq_false_of_disarmed config stillNotTouched stillNotPressed disarmed
  have noOverride : after.state.override? = none := by
    have stillNoGesture : Move.endsInGesture (moves ++ more) = false :=
      (Move.endsInGesture_append_of_allSilent moves silent).trans notInGesture
    have stillOnscreen := (congrArg Inputs.isOffscreen sameInputs).trans isOnscreen
    have gestureDisarmed := noneArmed .exitGesture
    have offscreenDisarmed := noneArmed .exitOffscreen
    rw [isRun] at stillOnscreen gestureDisarmed offscreenDisarmed ⊢
    exact
      override?_eq_none_of_disarmed config stillNoGesture stillOnscreen gestureDisarmed
        offscreenDisarmed
  have resting : after.isSwitching = false := by
    have ready : Ready world := (ready_create config).run moves
    exact (ready.of_leads (leads_advance world milliseconds)).isSwitching_settle
  refine ⟨isIdle, noOverride, ?_, resting, sameApp, ?_, ?_, ?_⟩
  · intro debounce
    exact congrArg Option.isSome (noneArmed debounce)
  · have sameConfig : after.config = config := by
      rw [isRun]
      exact config_run (operating_create config) (moves ++ more)
    rw [target_of_idle isIdle noOverride, sameConfig, sameApp]
  · intro value forced switched
    rw [isRun] at resting switched ⊢
    exact lastApplied_of_switched config (moves ++ more) resting switched
  · have operatingAfter : Operating after := by
      rw [moved]
      exact operating_run operating more
    exact advance_of_noneArmed operatingAfter.toWellFormed noneArmed

/-- All three debounces are armed; a switch was done, and another one is on its way. -/
def allArmed : List Move :=
  [.receive (.offscreen true), .receive (.touch true),
    .receive (.inputState ⟨false, false, true⟩), .work, .work, .work, .elapse 7,
    .receive (.touch false), .receive (.offscreen false), .receive (.topApp "com.game"),
    .receive (.inputState ⟨false, false, false⟩), .work]

theorem advance_settle_allArmed :
    (∀ debounce, ((create quickConfig).run allArmed).isArmed debounce = true) ∧
      (∀ debounce,
        (((create quickConfig).run allArmed).advance 102).settle.isArmed debounce = false) ∧
      (((create quickConfig).run allArmed).advance 102).settle.state.isActive = false ∧
      (((create quickConfig).run allArmed).advance 102).settle.state.gate.lastApplied =
        some 60 := by
  obtain ⟨isIdle, -, noneArmed, -, -, target, applied, -⟩ :=
    advance_settle_comes_to_rest isPatient_quickConfig allArmed (by decide) (by decide) (by decide)
      (by decide) (Nat.le_refl 102)
  have switched :
      .switched 120 true ∈ (((create quickConfig).run allArmed).advance 102).settle.history := by
    have operating := operating_run (operating_create quickConfig) allArmed
    obtain ⟨more, -, moved⟩ := (leads_advance _ 102).trans (leads_settle _)
    rw [moved]
    refine (history_isPrefix_run operating more).subset ?_
    decide
  refine ⟨?_, noneArmed, isIdle, ?_⟩
  · intro debounce
    cases debounce <;> decide
  · exact (applied 120 true switched).trans (congrArg some target)

end World

end RefreshRate.Controller
