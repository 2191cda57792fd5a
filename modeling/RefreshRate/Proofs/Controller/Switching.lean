import RefreshRate.Proofs.Controller.Run

namespace RefreshRate

/-!
# No switch is lost

A reaction that changes what the display should show, or that raises the force,
also requests a switch.  So whenever no switch is queued or running, the display
shows the value that the state asks for, however far the worker has lagged behind
and however many requests have become one.
-/

namespace Gate

/-- After an offer the gate remembers the value and no force, whether it passed or not. -/
theorem offer_snd
    (gate : Gate)
    (value : Int) :
    (gate.offer value).2 = ⟨some value, false⟩ := by
  unfold offer
  split
  · rfl
  · rename_i refused
    have notForced : gate.isForced = false := by
      cases forced : gate.isForced with
      | false => rfl
      | true => simp [passes, forced] at refused
    have sameValue : gate.lastApplied = some value := by
      simpa [passes, notForced] using refused
    simp [sameValue]

/-- A value is refused only if it is the value that passed last. -/
theorem lastApplied_of_offer_fst_eq_none
    {gate : Gate}
    {value : Int}
    (refused : (gate.offer value).1 = none) :
    gate.lastApplied = some value := by
  unfold offer at refused
  split at refused
  · cases refused
  · rename_i notPassed
    have both : gate.isForced = false ∧ gate.lastApplied = some value := by
      simpa [passes] using notPassed
    exact both.2

/-- What passes the gate is the value that was offered. -/
theorem value_of_offer_fst_eq_some
    {gate : Gate}
    {value : Int}
    {admission : Admission}
    (admitted : (gate.offer value).1 = some admission) :
    admission.value = value := by
  unfold offer at admitted
  split at admitted
  · cases admitted
    rfl
  · cases admitted

end Gate

namespace Controller

/-- The value that an event hands to the display. -/
def Event.shown? : Event → Option Int
  | .switched _ _ =>
      none
  | .applied _ _ value _ =>
      some value

namespace State

/-- The states ask for the same switch. -/
structure Alike (state other : State) : Prop where
  isActive : state.isActive = other.isActive
  app : state.app = other.app
  override? : state.override? = other.override?
  gate : state.gate = other.gate

theorem Alike.refl (state : State) : Alike state state :=
  ⟨rfl, rfl, rfl, rfl⟩

theorem Alike.trans
    {first second third : State}
    (firstAlike : Alike first second)
    (secondAlike : Alike second third) :
    Alike first third :=
  ⟨firstAlike.isActive.trans secondAlike.isActive, firstAlike.app.trans secondAlike.app,
    firstAlike.override?.trans secondAlike.override?, firstAlike.gate.trans secondAlike.gate⟩

theorem Alike.target_eq
    {state other : State}
    (alike : Alike state other)
    (rules : RuleTable) :
    state.target rules = other.target rules := by
  simp only [target, rule, alike.override?, alike.app, alike.isActive]

/-- The reaction requests a switch if one is needed, and leaves it to the switch to apply. -/
structure Heeds (state : State) (reaction : Reaction) : Prop where
  lastApplied : reaction.1.gate.lastApplied = state.gate.lastApplied
  requestsOrAlike : .requestSwitch ∈ reaction.2 ∨ Alike reaction.1 state

theorem Heeds.of_request
    {state : State}
    {reaction : Reaction}
    (lastApplied : reaction.1.gate.lastApplied = state.gate.lastApplied)
    (requested : .requestSwitch ∈ reaction.2) :
    Heeds state reaction :=
  ⟨lastApplied, .inl requested⟩

theorem Heeds.of_alike
    {state : State}
    {reaction : Reaction}
    (alike : Alike reaction.1 state) :
    Heeds state reaction :=
  ⟨congrArg Gate.lastApplied alike.gate, .inr alike⟩

theorem heeds_onInput (state : State) : Heeds state state.onInput := by
  unfold onInput
  split
  · exact .of_request rfl List.mem_cons_self
  · exact .of_alike (.refl state)

/-- Every signal is heeded. -/
theorem heeds_receive
    (state : State)
    (signal : Signal) :
    Heeds state (state.receive signal) := by
  cases signal with
  | touch pressed =>
      obtain ⟨lastApplied, requested | alike⟩ := heeds_onInput { state with touch := pressed }
      · exact .of_request lastApplied requested
      · exact .of_alike (alike.trans ⟨rfl, rfl, rfl, rfl⟩)
  | button pressed =>
      obtain ⟨lastApplied, requested | alike⟩ := heeds_onInput { state with button := pressed }
      · exact .of_request lastApplied requested
      · exact .of_alike (alike.trans ⟨rfl, rfl, rfl, rfl⟩)
  | inputState input =>
      simp only [receive, onInputState]
      split
      · exact .of_request rfl List.mem_cons_self
      · exact .of_alike (.refl state)
  | topApp app =>
      simp only [receive, onTopApp]
      split
      · exact .of_alike (.refl state)
      · exact .of_request rfl List.mem_cons_self
  | offscreen isOff =>
      simp only [receive, onOffscreen]
      split
      · exact .of_alike (.refl state)
      · split
        · exact .of_request rfl List.mem_cons_self
        · exact .of_alike ⟨rfl, rfl, rfl, rfl⟩
  | cgroup group tasks =>
      exact .of_alike (.refl state)

/-- Every debounce that is done is heeded. -/
theorem heeds_expire
    (state : State)
    (debounce : Debounce) :
    Heeds state (state.expire debounce) := by
  cases debounce with
  | enterIdle =>
      exact .of_request rfl List.mem_cons_self
  | exitGesture =>
      simp only [expire]
      split
      · exact .of_request rfl List.mem_cons_self
      · exact .of_alike (.refl state)
  | exitOffscreen =>
      simp only [expire]
      split
      · exact .of_request rfl List.mem_cons_self
      · exact .of_alike (.refl state)

end State

namespace World

/-- The value that the display shows: the one that was handed to it last. -/
def shown? (world : World) : Option Int :=
  (world.history.filterMap Event.shown?).getLast?

/-- After a switch the gate remembers the target, and no force. -/
theorem gate_switch
    {world : World}
    (isAlive : world.isAlive = true) :
    world.switch.state.gate = ⟨some world.target, false⟩ := by
  simp only [switch, isAlive, if_true, State.switch]
  exact world.state.gate.offer_snd world.target

/-- A switch does not change the target. -/
theorem target_switch (world : World) : world.switch.target = world.target := by
  unfold switch
  split <;> rfl

/-- A switch leaves the display with what the gate remembers. -/
theorem shown?_switch
    {world : World}
    (isAlive : world.isAlive = true)
    (before : world.shown? = world.state.gate.lastApplied) :
    world.switch.shown? = world.switch.state.gate.lastApplied := by
  rw [gate_switch isAlive]
  simp only [shown?, switch, isAlive, if_true, List.filterMap_append]
  cases admitted : (world.state.switch world.config.rules).1 with
  | none =>
      have nothingShown : world.switchEvents.filterMap Event.shown? = [] := by
        simp only [switchEvents, admitted]
        rfl
      rw [nothingShown, List.append_nil]
      exact before.trans (Gate.lastApplied_of_offer_fst_eq_none admitted)
  | some admission =>
      have valueShown : world.switchEvents.filterMap Event.shown? = [admission.value] := by
        simp only [switchEvents, admitted]
        rfl
      rw [valueShown, List.getLast?_concat]
      exact congrArg some (Gate.value_of_offer_fst_eq_some admitted)

/-- The gate agrees with the display, and unless a switch is on its way with the state. -/
structure UpToDate (world : World) (requested : Prop) : Prop where
  shown : world.shown? = world.state.gate.lastApplied
  notForced :
    world.isSwitching = false →
      world.state.gate.isForced = false
  lastApplied :
    world.isSwitching = false →
      ¬requested ∧ State.Alike world.state {} ∨
        world.state.gate.lastApplied = some world.target

namespace UpToDate

variable {world : World} {requested : Prop}

/-- While a switch is on its way, only the display has to agree with the gate. -/
theorem of_isSwitching
    (shown : world.shown? = world.state.gate.lastApplied)
    (switching : world.isSwitching = true) :
    UpToDate world requested := by
  refine ⟨shown, ?_, ?_⟩
  · intro resting
    rw [switching] at resting
    cases resting
  · intro resting
    rw [switching] at resting
    cases resting

/-- Only the state, the configuration, the events and the executor matter. -/
theorem congr
    (upToDate : UpToDate world requested)
    {next : World}
    (alike : State.Alike next.state world.state)
    (sameConfig : next.config = world.config)
    (sameHistory : next.history = world.history)
    (sameSwitching : next.isSwitching = world.isSwitching) :
    UpToDate next requested := by
  have sameTarget : next.target = world.target := by
    simp only [target, sameConfig, alike.target_eq]
  refine ⟨?_, ?_, ?_⟩
  · simpa only [shown?, sameHistory, alike.gate] using upToDate.shown
  · intro resting
    rw [alike.gate]
    exact upToDate.notForced (sameSwitching ▸ resting)
  · intro resting
    rcases upToDate.lastApplied (sameSwitching ▸ resting) with fresh | applied
    · exact .inl ⟨fresh.1, alike.trans fresh.2⟩
    · exact .inr (by rw [alike.gate, sameTarget]; exact applied)

/-- A reaction that heeds what it reacts to keeps everything up to date. -/
theorem react
    (upToDate : UpToDate world requested)
    (wellFormed : WellFormed world)
    {reaction : Reaction}
    (heeds : State.Heeds world.state reaction) :
    UpToDate (world.react reaction) (requested ∨ .requestSwitch ∈ reaction.2) := by
  have queuedAfter := isSwitchQueued_react wellFormed reaction
  by_cases requests : .requestSwitch ∈ reaction.2
  · refine .of_isSwitching ?_ ?_
    · simpa [shown?, heeds.lastApplied] using upToDate.shown
    · simp [isSwitching, queuedAfter, requests]
  · have alike := heeds.requestsOrAlike.resolve_left requests
    have sameSwitching : (world.react reaction).isSwitching = world.isSwitching := by
      simp [isSwitching, queuedAfter, requests, Executor.isRunning,
        worker_react wellFormed reaction]
    have kept : UpToDate (world.react reaction) requested :=
      upToDate.congr ((state_react world reaction).symm ▸ alike) (config_react world reaction)
        (history_react world reaction) sameSwitching
    simpa [requests] using kept

/-- A step keeps everything up to date. -/
theorem step
    (upToDate : UpToDate world requested)
    (operating : Operating world)
    {move : Move}
    {next : World}
    (stepped : Stepped world move next) :
    UpToDate next (requested ∨ .requestSwitch ∈ world.commands move) := by
  have isAlive := operating.isAlive
  cases stepped with
  | received signal =>
      simp only [commands, isAlive, if_true]
      exact upToDate.react operating.toWellFormed (State.heeds_receive world.state signal)
  | elapsed milliseconds =>
      simp only [commands, isAlive, if_true, List.not_mem_nil, or_false]
      exact upToDate.congr (.refl _) rfl rfl rfl
  | notFired nothingDue =>
      simp only [commands, isAlive, if_true, nothingDue, Option.elim_none, List.not_mem_nil,
        or_false]
      exact upToDate
  | fired debounce deadline due armed reached =>
      simp only [commands, isAlive, if_true, due, Option.elim_some]
      have taken : UpToDate (world.carryOut (.cancel debounce)) requested :=
        upToDate.congr (.refl _) rfl rfl rfl
      exact
        taken.react (wellFormed_carryOut operating.toWellFormed (.cancel debounce))
          (State.heeds_expire world.state debounce)
  | worked worked =>
      simp only [commands, isAlive, if_true, List.not_mem_nil, or_false]
      cases worked with
      | goesOn executor sameSize sameQueue sameRunning =>
          refine upToDate.congr (.refl _) rfl rfl ?_
          simp only [isSwitching, isSwitchQueued, sameQueue, sameRunning]
      | takes executor sameSize wasQueued nowEmpty isRunning =>
          refine .of_isSwitching upToDate.shown ?_
          simp only [isSwitching, isRunning, Bool.or_true]
      | switches executor sameSize sameQueue wasRunning nowResting =>
          have gateAfter := gate_switch isAlive
          refine ⟨shown?_switch isAlive upToDate.shown, ?_, ?_⟩
          · intro _
            exact congrArg Gate.isForced gateAfter
          · intro _
            refine .inr ((congrArg Gate.lastApplied gateAfter).trans ?_)
            exact congrArg some (target_switch world).symm

end UpToDate

/-- In every run everything stays up to date. -/
theorem upToDate_run
    (config : Config)
    (moves : List Move) :
    UpToDate
      ((create config).run moves)
      (.requestSwitch ∈ (create config).issued moves) := by
  refine
    run_induction
      (motive := fun moves world =>
        UpToDate world (.requestSwitch ∈ (create config).issued moves))
      config ?_ ?_ moves
  · refine ⟨rfl, fun _ => rfl, fun _ => .inl ⟨List.not_mem_nil, .refl _⟩⟩
  · intro moves move next operating stepped upToDate
    rw [issued_append, List.mem_append, issued_singleton]
    exact upToDate.step operating stepped

/--
When no switch is queued or running there is no force, and the display shows what
the state asks for, unless no switch has been requested yet.
-/
theorem shown?_eq_target_of_not_isSwitching
    (config : Config)
    (moves : List Move)
    (resting : ((create config).run moves).isSwitching = false) :
    let world := (create config).run moves
    world.state.gate.isForced = false ∧
      world.shown? = world.state.gate.lastApplied ∧
        (.requestSwitch ∉ (create config).issued moves ∧
            world.state.gate.lastApplied = none ∧
              world.state.isActive = false ∧
                world.state.app = "" ∧
                  world.state.override? = none ∨
          world.state.gate.lastApplied = some world.target) := by
  have upToDate := upToDate_run config moves
  refine ⟨upToDate.notForced resting, upToDate.shown, ?_⟩
  rcases upToDate.lastApplied resting with ⟨notRequested, fresh⟩ | applied
  · exact
      .inl
        ⟨notRequested, congrArg Gate.lastApplied fresh.gate, fresh.isActive, fresh.app,
          fresh.override?⟩
  · exact .inr applied

/-- A run in which a press comes while the switch to a new app is still running. -/
def pressDuringSwitch : List Move :=
  [.receive (.topApp "com.game"), .work, .work, .receive (.touch true),
    .work, .work, .work, .work, .work, .work, .work]

theorem shown?_run_pressDuringSwitch :
    ((create sampleConfig).run pressDuringSwitch).isSwitching = false ∧
      ((create sampleConfig).run pressDuringSwitch).shown? = some 144 := by
  have resting : ((create sampleConfig).run pressDuringSwitch).isSwitching = false := by
    decide
  obtain ⟨-, shown, ⟨-, notApplied, -⟩ | applied⟩ :=
    shown?_eq_target_of_not_isSwitching sampleConfig pressDuringSwitch resting
  · exact absurd notApplied (by decide)
  · have target : ((create sampleConfig).run pressDuringSwitch).target = 144 := by
      decide
    exact ⟨resting, shown.trans (applied.trans (congrArg some target))⟩

end World

end Controller

end RefreshRate
