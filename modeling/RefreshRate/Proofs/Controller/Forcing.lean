import RefreshRate.Proofs.Controller.Applied
import RefreshRate.Proofs.Controller.Coalescing

namespace RefreshRate.Controller.World

/-!
# No force is lost and none leaks

Three things force the next switch: another app on top, leaving the screen, and the
end of the slack time after the return.  All requests share one flag, and the switch
that runs next uses it up, whoever has requested it.  So a switch is forced exactly if
something has forced it since the switch before, however far the worker lags behind,
and whatever forces a switch is followed by a switch that does reach the display.
-/

variable {world next : World} {move : Move}

/-- Whether a move forces the next switch. -/
def forces (world : World) : Move → Bool
  | .receive (.topApp app) =>
      decide (app ≠ world.state.app)
  | .receive (.offscreen isOff) =>
      isOff && !world.state.isOffscreen
  | .fire =>
      decide (world.due? = some .exitOffscreen ∧ world.state.override? = some .offscreen)
  | _ =>
      false

/-- Whether the worker does in a move the switch that it has taken. -/
def doesSwitch
    (world : World)
    (move : Move) :
    Bool :=
  decide (move = .work) && world.executor.isRunning

/-- Something has forced a switch in a run, and nothing was switched after it. -/
def ForcedSinceSwitch
    (config : Config)
    (moves : List Move) :
    Prop :=
  ∃ earlier move later,
    moves = earlier ++ move :: later ∧
      ((create config).run earlier).forces move = true ∧
        ((create config).run moves).history =
          ((create config).run (earlier ++ [move])).history

/-- A step of the worker does the switch that it has taken, or no switch at all. -/
theorem step_work_cases
    (operating : Operating world) :
    (world.executor.isRunning = true ∧
        ∃ executor, world.step .work = { world.switch with executor }) ∨
      (world.executor.isRunning = false ∧
        ∃ executor, world.step .work = { world with executor }) := by
  cases running : world.executor.isRunning with
  | true =>
      obtain ⟨executor, switched, -⟩ := exists_step?_eq_switch running
      refine .inl ⟨rfl, executor, ?_⟩
      simp only [step, switched, Option.getD_some]
  | false =>
      refine .inr ⟨rfl, ?_⟩
      have worked : Worked world (world.step .work) := worked_step_work operating.toWellFormed
      generalize world.step .work = next at worked
      cases worked with
      | goesOn executor =>
          exact ⟨executor, rfl⟩
      | takes executor =>
          exact ⟨executor, rfl⟩
      | switches executor sameSize sameQueue wasRunning nowResting =>
          cases running.symm.trans wasRunning

/-- A switch resolves the target, and shows it if it is forced or new. -/
theorem switchEvents_eq (world : World) :
    world.switchEvents =
      .switched world.target world.state.gate.isForced ::
        if world.state.gate.isForced ∨ world.state.gate.lastApplied ≠ some world.target then
          [.applied world.now world.config.tunables.mode world.target world.state.gate.isForced]
        else
          [] := by
  have passesIff :
      world.state.gate.passes world.target = true ↔
        world.state.gate.isForced = true ∨
          world.state.gate.lastApplied ≠ some world.target := by
    simp [Gate.passes]
  simp only [switchEvents, State.switch, Gate.offer]
  by_cases passes : world.state.gate.passes world.target = true
  · rw [if_pos (passesIff.mp passes)]
    have offered : world.state.gate.passes (world.state.target world.config.rules) = true :=
      passes
    simp only [offered, if_true]
    rfl
  · rw [if_neg fun either => passes (passesIff.mpr either)]
    have refused : ¬world.state.gate.passes (world.state.target world.config.rules) = true :=
      passes
    simp only [refused]
    rfl

theorem switchEvents_of_isForced
    (isForced : world.state.gate.isForced = true) :
    world.switchEvents =
      [.switched world.target true,
        .applied world.now world.config.tunables.mode world.target true] := by
  rw [switchEvents_eq, isForced, if_pos (.inl rfl)]

/-- Only a switch that is done adds to the history. -/
theorem history_step
    (operating : Operating world)
    (move : Move) :
    (world.step move).history =
      world.history ++ if world.doesSwitch move then world.switchEvents else [] := by
  cases move with
  | receive signal =>
      exact (history_receive operating signal).trans (List.append_nil _).symm
  | elapse milliseconds =>
      exact (List.append_nil _).symm
  | fire =>
      have unchanged : world.fireDue.history = world.history := by
        cases due : world.due? with
        | none =>
            rw [fireDue_of_due?_eq_none due]
        | some debounce =>
            rw [fireDue_of_due?_eq_some operating due]
            exact history_react _ _
      exact unchanged.trans (List.append_nil _).symm
  | work =>
      rcases step_work_cases operating with ⟨running, executor, worked⟩ |
        ⟨resting, executor, worked⟩
      · simp only [worked, doesSwitch, running, decide_true, Bool.and_self, if_true]
        exact history_switch operating.isAlive
      · simp only [worked, doesSwitch, resting, Bool.and_false, Bool.false_eq_true, if_false,
          List.append_nil]

theorem isForced_receive
    (operating : Operating world)
    (signal : Signal) :
    (world.receive signal).state.gate.isForced =
      (world.state.raisesForce signal || world.state.gate.isForced) :=
  congrArg Gate.isForced (gate_receive operating signal)

/-- The signals that raise the force are those that force the next switch. -/
theorem raisesForce_eq_forces
    (world : World)
    (signal : Signal) :
    world.state.raisesForce signal = world.forces (.receive signal) := by
  unfold State.raisesForce forces
  cases signal with
  | touch pressed =>
      simp only [State.receive, State.onInput]
      split <;> rfl
  | button pressed =>
      simp only [State.receive, State.onInput]
      split <;> rfl
  | inputState input =>
      simp only [State.receive, State.onInputState]
      split <;> rfl
  | topApp app =>
      have sameApp : world.state.ungated.app = world.state.app := rfl
      simp only [State.receive, State.onTopApp, sameApp]
      by_cases same : app = world.state.app
      · simp only [same, if_true, ne_eq, not_true_eq_false, decide_false]
        rfl
      · simp only [same, if_false, ne_eq, not_false_eq_true, decide_true]
        rfl
  | offscreen isOff =>
      have sameEdge : world.state.ungated.isOffscreen = world.state.isOffscreen := rfl
      simp only [State.receive, State.onOffscreen, sameEdge]
      cases isOff <;> cases world.state.isOffscreen <;> rfl
  | cgroup group tasks =>
      rfl

/-- Of the debounces only the return forces a switch, and only if it lifts the override. -/
theorem isForced_fired
    (world : World)
    (debounce : Debounce) :
    (world.fired debounce).state.gate.isForced =
      (decide (debounce = .exitOffscreen ∧ world.state.override? = some .offscreen) ||
        world.state.gate.isForced) := by
  have stateAfter : (world.fired debounce).state = (world.state.expire debounce).1 :=
    state_react _ _
  rw [stateAfter]
  cases debounce with
  | enterIdle =>
      simp [State.expire]
  | exitGesture =>
      rw [State.expire]
      split
      · simp
      · simp
  | exitOffscreen =>
      rw [State.expire]
      by_cases isOver : world.state.override? = some .offscreen
      · simp [isOver, State.raiseForce, Gate.raiseForce]
      · simp [isOver]

/-- The force stays up until a switch is done, and nothing else raises it. -/
theorem isForced_step
    (operating : Operating world)
    (move : Move) :
    (world.step move).state.gate.isForced =
      (world.forces move || (world.state.gate.isForced && !world.doesSwitch move)) := by
  cases move with
  | receive signal =>
      have raised := isForced_receive operating signal
      simp only [step, raised, raisesForce_eq_forces, doesSwitch, reduceCtorEq, decide_false,
        Bool.false_and, Bool.not_false, Bool.and_true]
  | elapse milliseconds =>
      simp [step, forces, doesSwitch]
  | fire =>
      simp only [step, forces, doesSwitch, reduceCtorEq, decide_false, Bool.false_and,
        Bool.not_false, Bool.and_true]
      cases due : world.due? with
      | none =>
          simp [fireDue_of_due?_eq_none due]
      | some debounce =>
          rw [fireDue_of_due?_eq_some operating due, isForced_fired]
          simp
  | work =>
      rcases step_work_cases operating with ⟨running, executor, worked⟩ |
        ⟨resting, executor, worked⟩
      · have usedUp : world.switch.state.gate.isForced = false :=
          congrArg Gate.isForced (gate_switch operating.isAlive)
        simp [worked, usedUp, forces, doesSwitch, running]
      · simp [worked, forces, doesSwitch, resting]

/-- A switch that is done adds to the history. -/
theorem doesSwitch_eq_false_of_history_eq
    (operating : Operating world)
    (unchanged : (world.step move).history = world.history) :
    world.doesSwitch move = false := by
  by_contra switches
  rw [history_step operating, if_pos (eq_true_of_ne_false switches)] at unchanged
  have noEvents := List.append_right_eq_self.mp unchanged
  rw [switchEvents_eq] at noEvents
  cases noEvents

/-- The force is up exactly if a switch has been forced since the last one. -/
theorem isForced_run_iff
    (config : Config)
    (moves : List Move) :
    ((create config).run moves).state.gate.isForced = true ↔ ForcedSinceSwitch config moves := by
  induction moves using List.reverseRecOn with
  | nil =>
      constructor
      · intro isForced
        cases isForced
      · rintro ⟨earlier, move, later, split, -⟩
        simp at split
  | append_singleton moves last inductionHypothesis =>
      have operating := operating_run (operating_create config) moves
      rw [run_append, run_cons, run_nil, isForced_step operating, Bool.or_eq_true,
        Bool.and_eq_true, inductionHypothesis]
      constructor
      · rintro (forces | ⟨⟨earlier, move, later, rfl, forces, since⟩, noSwitch⟩)
        · exact ⟨moves, last, [], rfl, forces, rfl⟩
        · refine ⟨earlier, move, later ++ [last], by simp, forces, ?_⟩
          have notSwitched :
              ((create config).run (earlier ++ move :: later)).doesSwitch last = false := by
            simpa using noSwitch
          rw [run_append, run_cons, run_nil, history_step operating, notSwitched]
          simpa using since
      · rintro ⟨earlier, move, later, split, forces, since⟩
        rcases List.eq_nil_or_concat later with rfl | ⟨before, newest, rfl⟩
        · obtain ⟨rfl, sameMove⟩ := List.append_inj' split rfl
          cases sameMove
          exact .inl forces
        · have splitBefore : moves ++ [last] = (earlier ++ move :: before) ++ [newest] := by
            rw [split, List.concat_eq_append, List.append_assoc, List.cons_append]
          obtain ⟨rfl, sameMove⟩ := List.append_inj' splitBefore rfl
          cases sameMove
          -- the history only grows, so it has not grown before the last move either
          have runSplit : (create config).run (earlier ++ move :: before) =
              ((create config).run (earlier ++ [move])).run before := by
            rw [← run_append, List.append_assoc, List.singleton_append]
          have grown :
              ((create config).run (earlier ++ [move])).history <+:
                ((create config).run (earlier ++ move :: before)).history := by
            rw [runSplit]
            exact history_isPrefix_run (operating_run (operating_create config) _) before
          have grownLast := history_isPrefix_run operating [last]
          rw [run_append] at since
          rw [since] at grownLast
          have sameBefore := (grown.eq_of_length_le grownLast.length_le).symm
          refine .inr ⟨⟨earlier, move, before, rfl, forces, sameBefore⟩, ?_⟩
          rw [doesSwitch_eq_false_of_history_eq operating (since.trans sameBefore.symm)]
          rfl

/-- The history of the world only grows by switches. -/
theorem history_isPrefix_iterate_switch
    (count : Nat)
    (world : World) :
    world.history <+: (switch^[count] world).history := by
  induction count generalizing world with
  | zero =>
      exact List.prefix_refl _
  | succ count inductionHypothesis =>
      rw [Function.iterate_succ_apply]
      refine List.IsPrefix.trans ?_ (inductionHypothesis world.switch)
      unfold switch
      split
      · exact List.prefix_append _ _
      · exact List.prefix_refl _

/--
While the force is up, the switch that is done next is forced and shows the target of
its time, at the latest when the executor settles.
-/
theorem UpToDate.exists_forced_switch
    {requested : Prop}
    (upToDate : UpToDate world requested)
    (ready : Ready world)
    (isForced : world.state.gate.isForced = true)
    (later : List Move) :
    ∃ between rest events,
      later = between ++ rest ∧
        (world.run later).settle.history =
          world.history ++
            .switched (world.run between).target true ::
              .applied (world.run between).now (world.run between).config.tunables.mode
                  (world.run between).target true ::
                events := by
  induction later generalizing world requested with
  | nil =>
      have onTheirWay : world.switchesOnTheirWay ≠ 0 := by
        intro none
        have notForced := upToDate.notForced (switchesOnTheirWay_eq_zero_iff.mp none)
        cases isForced.symm.trans notForced
      obtain ⟨count, countIs⟩ := Nat.exists_eq_succ_of_ne_zero onTheirWay
      obtain ⟨executor, settled⟩ := ready.exists_settle_eq_iterate
      obtain ⟨events, grown⟩ := history_isPrefix_iterate_switch count world.switch
      refine ⟨[], [], events, rfl, ?_⟩
      rw [run_nil, settled, countIs, Function.iterate_succ_apply]
      rw [history_switch ready.isAlive, switchEvents_of_isForced isForced] at grown
      simpa using grown.symm
  | cons move rest inductionHypothesis =>
      have added := history_step ready.toOperating move
      have nextReady := ready.step move
      by_cases switches : world.doesSwitch move = true
      · -- this is the switch, and what comes later only adds to the history
        have laterOperating := (nextReady.run rest).toOperating
        obtain ⟨settling, -, settled⟩ := leads_settle ((world.step move).run rest)
        have grown :
            (world.step move).history <+: ((world.step move).run rest).settle.history := by
          rw [settled]
          exact
            (history_isPrefix_run nextReady.toOperating rest).trans
              (history_isPrefix_run laterOperating settling)
        rw [added, if_pos switches, switchEvents_of_isForced isForced] at grown
        obtain ⟨events, split⟩ := grown
        refine ⟨[], move :: rest, events, rfl, ?_⟩
        rw [run_cons, ← split]
        simp
      · have notSwitched : world.doesSwitch move = false := eq_false_of_ne_true switches
        have stillForced : (world.step move).state.gate.isForced = true := by
          rw [isForced_step ready.toOperating, isForced, notSwitched]
          simp
        have nextUpToDate :=
          upToDate.step ready.toOperating (stepped_step ready.toOperating move)
        obtain ⟨between, after, events, rfl, settled⟩ :=
          inductionHypothesis nextUpToDate nextReady stillForced
        refine ⟨move :: between, after, events, rfl, ?_⟩
        rw [run_cons, run_cons, settled, added, if_neg switches, List.append_nil]

/-- Whatever forces a switch also requests one. -/
theorem isSwitchQueued_step_of_forces
    (operating : Operating world)
    (forces : world.forces move = true) :
    (world.step move).isSwitchQueued = true := by
  cases move with
  | receive signal =>
      have requests : .requestSwitch ∈ (world.state.receive signal).2 :=
        State.requestSwitch_mem_of_raisesForce
          ((raisesForce_eq_forces world signal).trans forces)
      rw [step, isSwitchQueued_receive operating, decide_eq_true requests, Bool.true_or]
  | elapse milliseconds =>
      cases forces
  | fire =>
      obtain ⟨due, isOver⟩ := of_decide_eq_true forces
      have requests : .requestSwitch ∈ (world.state.expire .exitOffscreen).2 := by
        rw [State.expire, if_pos isOver]
        exact List.mem_cons_self
      have taken := wellFormed_carryOut operating.toWellFormed (.cancel .exitOffscreen)
      rw [step, fireDue_of_due?_eq_some operating due, fired, isSwitchQueued_react taken,
        decide_eq_true requests, Bool.true_or]
  | work =>
      cases forces

/--
In every run a switch that is done is forced exactly if something has forced it since
the switch before, and then it reaches the display.  While the force is up a switch is
on its way.  Whatever forces a switch queues one, and the switch that is done next,
whenever the worker gets to it, is forced and shows the target of that time.
-/
theorem switch_is_forced_iff
    (config : Config)
    (moves : List Move) :
    let world := (create config).run moves
    (∀ move,
        ∃ forced,
          (forced = true ↔ ForcedSinceSwitch config moves) ∧
            (world.step move).history =
              world.history ++
                if world.doesSwitch move then
                  .switched world.target forced ::
                    if forced ∨ world.state.gate.lastApplied ≠ some world.target then
                      [.applied world.now config.tunables.mode world.target forced]
                    else
                      []
                else
                  []) ∧
      (world.state.gate.isForced = true → world.isSwitching = true) ∧
      (∀ move later,
        world.forces move = true →
          (world.step move).isSwitchQueued = true ∧
            ∃ between rest events,
              later = between ++ rest ∧
                let seen := (world.step move).run between
                ((world.step move).run later).settle.history =
                  (world.step move).history ++
                    .switched seen.target true ::
                      .applied seen.now config.tunables.mode seen.target true ::
                        events) := by
  intro world
  have ready : Ready world := (ready_create config).run moves
  have upToDate := upToDate_run config moves
  have sameConfig : world.config = config := config_run (operating_create config) moves
  refine ⟨?_, ?_, ?_⟩
  · intro move
    refine ⟨world.state.gate.isForced, isForced_run_iff config moves, ?_⟩
    rw [history_step ready.toOperating, switchEvents_eq, sameConfig]
  · intro isForced
    by_contra resting
    cases isForced.symm.trans (upToDate.notForced (eq_false_of_ne_true resting))
  · intro move later forces
    refine ⟨isSwitchQueued_step_of_forces ready.toOperating forces, ?_⟩
    have stepped := stepped_step ready.toOperating move
    have isForced : (world.step move).state.gate.isForced = true := by
      rw [isForced_step ready.toOperating, forces, Bool.true_or]
    obtain ⟨between, rest, events, split, settled⟩ :=
      (upToDate.step ready.toOperating stepped).exists_forced_switch (ready.step move) isForced
        later
    refine ⟨between, rest, events, split, ?_⟩
    have seenConfig : ((world.step move).run between).config = config := by
      rw [config_run (ready.step move).toOperating, stepped.config_eq, sameConfig]
    rw [seenConfig] at settled
    exact settled

/-- A press comes after another app has come to the top, before the worker gets there. -/
def pressBehindApp : List Move :=
  [.receive (.topApp "com.game"), .receive (.touch true), .work, .work]

theorem switch_is_forced_pressBehindApp :
    ((create sampleConfig).run pressBehindApp).doesSwitch .work = true ∧
      ForcedSinceSwitch sampleConfig pressBehindApp ∧
        (((create sampleConfig).run pressBehindApp).step .work).history =
          [.switched 144 true, .applied 0 .literal 144 true] := by
  have history :
      (((create sampleConfig).run pressBehindApp).step .work).history =
        [.switched 144 true, .applied 0 .literal 144 true] := by
    decide
  obtain ⟨forced, forcedIff, switched⟩ :=
    (switch_is_forced_iff sampleConfig pressBehindApp).1 .work
  have isForced : forced = true := by
    cases forced with
    | true =>
        rfl
    | false =>
        exact absurd (history.symm.trans switched) (by decide)
  exact ⟨by decide, forcedIff.mp isForced, history⟩

end RefreshRate.Controller.World
