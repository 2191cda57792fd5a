import RefreshRate.Proofs.Config.Accepted
import RefreshRate.Proofs.Controller.Run
import RefreshRate.Proofs.Timer.Lateness

namespace RefreshRate

/-!
# The alarms of a controller

Only a signal arms a debounce, for its slack time from now on; a debounce that is
done arms nothing.  So no deadline lies further ahead than the slack time, and if
the slack times are positive every alarm leaves time for the other two to go first.
-/

/-- Every debounce waits for at least a millisecond. -/
def Tunables.IsPatient (tunables : Tunables) : Prop :=
  ∀ debounce : Controller.Debounce, 0 < debounce.slack tunables

/-- Slack times that are bounded from below are positive. -/
theorem Tunables.Bounded.isPatient
    {tunables : Tunables}
    (bounded : tunables.Bounded) :
    tunables.IsPatient := by
  have positive : 0 < Tunables.minSlack := by decide
  intro debounce
  cases debounce with
  | enterIdle =>
      exact Nat.lt_of_lt_of_le positive bounded.touchSlack
  | exitGesture =>
      exact Nat.lt_of_lt_of_le positive bounded.gestureSlack
  | exitOffscreen =>
      exact Nat.lt_of_lt_of_le positive bounded.gestureSlack

namespace Controller.World

variable {world next : World} {move : Move}

theorem alarm?_react_cases
    (wellFormed : WellFormed world)
    (reaction : Reaction)
    (debounce : Debounce) :
    (world.react reaction).alarm? debounce = world.alarm? debounce ∨
      (world.react reaction).alarm? debounce = none ∨
        (world.react reaction).alarm? debounce =
          some ⟨world.deadline debounce, debounce⟩ := by
  rw [alarm?_react wellFormed]
  refine
    List.foldlRecOn (motive := fun alarm? =>
        alarm? = world.alarm? debounce ∨
          alarm? = none ∨ alarm? = some ⟨world.deadline debounce, debounce⟩)
      reaction.2 _ (.inl rfl) ?_
  intro alarm? before command _
  cases command with
  | requestSwitch =>
      exact before
  | arm other =>
      simp only [Command.alarmAfter?]
      split
      · exact .inr (.inr rfl)
      · exact before
  | cancel other =>
      simp only [Command.alarmAfter?]
      split
      · exact .inr (.inl rfl)
      · exact before

/-- A debounce that is done requests a switch at most; it touches no timer. -/
theorem timers_react_expire
    (wellFormed : WellFormed world)
    (debounce : Debounce) :
    (world.react (world.state.expire debounce)).timers = world.timers := by
  rw [react_eq_foldl wellFormed]
  cases debounce with
  | enterIdle =>
      rfl
  | exitGesture =>
      rw [State.expire]
      split <;> rfl
  | exitOffscreen =>
      rw [State.expire]
      split <;> rfl

theorem alarm?_react_expire
    (wellFormed : WellFormed world)
    (debounce other : Debounce) :
    (world.react (world.state.expire debounce)).alarm? other = world.alarm? other := by
  simp only [alarm?, timers_react_expire wellFormed]

/-- A firing puts the slot of its debounce to sleep and does nothing else to the timers. -/
theorem timers_fired
    (wellFormed : WellFormed world)
    (debounce : Debounce) :
    (world.fired debounce).timers = world.timers.replace debounce.handle none :=
  timers_react_expire (wellFormed_carryOut wellFormed (.cancel debounce)) debounce

theorem alarm?_fired
    (wellFormed : WellFormed world)
    (debounce other : Debounce) :
    (world.fired debounce).alarm? other =
      if debounce = other then none else world.alarm? other := by
  rw [alarm?, timers_fired wellFormed]
  exact alarm?_replace_handle wellFormed other debounce none

/-- A step keeps an alarm, drops it, or sets it anew because of a signal. -/
theorem Stepped.alarm?_cases
    (stepped : Stepped world move next)
    (operating : Operating world)
    (debounce : Debounce) :
    next.alarm? debounce = world.alarm? debounce ∨
      next.alarm? debounce = none ∨
        next.now = world.now ∧
          next.alarm? debounce = some ⟨world.deadline debounce, debounce⟩ := by
  cases stepped with
  | received signal =>
      rcases alarm?_react_cases operating.toWellFormed (world.state.receive signal) debounce
        with kept | dropped | fresh
      · exact .inl kept
      · exact .inr (.inl dropped)
      · exact .inr (.inr ⟨now_react _ _, fresh⟩)
  | elapsed milliseconds =>
      exact .inl rfl
  | notFired nothingDue =>
      exact .inl rfl
  | fired fired deadline due armed reached =>
      rw [alarm?_fired operating.toWellFormed]
      split
      · exact .inr (.inl rfl)
      · exact .inl rfl
  | worked worked =>
      cases worked with
      | goesOn executor =>
          exact .inl rfl
      | takes executor =>
          exact .inl rfl
      | switches executor =>
          refine .inl ?_
          simp only [alarm?, timers_switch]

/-- No deadline is further ahead than the slack time of its debounce. -/
theorem deadline_le_run
    (config : Config)
    (moves : List Move)
    (debounce : Debounce)
    {alarm : Timer.Alarm Debounce}
    (armed : ((create config).run moves).alarm? debounce = some alarm) :
    alarm.deadline ≤
      ((((create config).run moves).now + debounce.slack config.tunables : Nat) : Int) := by
  have bounded :
      ∀ alarm, ((create config).run moves).alarm? debounce = some alarm →
        alarm.deadline ≤
          ((((create config).run moves).now + debounce.slack config.tunables : Nat) : Int) := by
    refine
      run_induction
        (motive := fun _ world =>
          ∀ alarm, world.alarm? debounce = some alarm →
            alarm.deadline ≤ ((world.now + debounce.slack config.tunables : Nat) : Int))
        config ?_ ?_ moves
    · intro alarm armed
      cases debounce <;> cases armed
    · intro moves move next operating stepped before alarm armed
      have later := stepped.now_le
      rcases stepped.alarm?_cases operating debounce with kept | dropped | ⟨sameNow, fresh⟩
      · have bound := before alarm (kept.symm.trans armed)
        omega
      · cases dropped.symm.trans armed
      · cases fresh.symm.trans armed
        simp only [deadline, config_run (operating_create config) moves, sameNow]
        exact Int.le_refl _
  exact bounded alarm armed

/-- With positive slack times a reaction keeps the timers punctual. -/
theorem isPunctual_react
    {behind : Nat}
    (wellFormed : WellFormed world)
    (isPatient : world.config.tunables.IsPatient)
    (isPunctual : world.timers.IsPunctual (behind + 1) world.now)
    (reaction : Reaction) :
    (world.react reaction).timers.IsPunctual (behind + 1) world.now := by
  rw [react_eq_foldl wellFormed]
  have kept :
      let after := reaction.2.foldl carryOut { world with state := reaction.1 }
      WellFormed after ∧ after.now = world.now ∧ after.config = world.config ∧
        after.timers.IsPunctual (behind + 1) world.now := by
    refine
      List.foldlRecOn (motive := fun after =>
          WellFormed after ∧ after.now = world.now ∧ after.config = world.config ∧
            after.timers.IsPunctual (behind + 1) world.now)
        reaction.2 carryOut
        ⟨wellFormed_withState wellFormed reaction.1, rfl, rfl, isPunctual⟩ ?_
    rintro before ⟨beforeWellFormed, sameNow, sameConfig, beforePunctual⟩ command -
    refine ⟨wellFormed_carryOut beforeWellFormed command, ?_⟩
    cases command with
    | requestSwitch =>
        exact ⟨sameNow, sameConfig, beforePunctual⟩
    | arm debounce =>
        refine ⟨sameNow, sameConfig, beforePunctual.replace_some ?_⟩
        have patience := isPatient debounce
        have slots : before.timers.size = 3 := beforeWellFormed.timerSlots
        simp only [deadline, sameNow, sameConfig, slots]
        omega
    | cancel debounce =>
        exact ⟨sameNow, sameConfig, beforePunctual.replace_none debounce.handle⟩
  exact kept.2.2.2

end Controller.World

end RefreshRate
