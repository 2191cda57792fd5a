import RefreshRate.Proofs.Controller.Strand

namespace RefreshRate

/-!
# The order of independent producers

The strands end where they would have ended alone, so the order between them does not
matter.  Touch and button share activity and its debounce, but how these end depends on
the last state of both keys and on whether one was pressed at all, not on their order.
-/

/--
The same signals in another order that the producers do not notice: each topic keeps
its order, and so do the state of the fingers and the edges of the screen together.
-/
structure SameOrder (signals other : List Signal) : Prop where
  perm : signals.Perm other
  topic :
    ∀ topic,
      signals.filter (fun signal => signal.topic = topic) =
        other.filter (fun signal => signal.topic = topic)
  cover :
    signals.filter
        (fun signal => signal.topic = .inputState ∨ signal.topic = .offscreen) =
      other.filter
        (fun signal => signal.topic = .inputState ∨ signal.topic = .offscreen)

theorem SameOrder.symm
    {signals others : List Signal}
    (sameOrder : SameOrder signals others) :
    SameOrder others signals :=
  ⟨sameOrder.perm.symm, fun topic => (sameOrder.topic topic).symm, sameOrder.cover.symm⟩

namespace Controller.World

variable {world other start : World} {strand : Strand}

/-- How activity and its debounce end after some signals. -/
structure KeysAfter (start : World) (signals : List Signal) (after : World) : Prop where
  active_of_held :
    (after.state.touch || after.state.button) = true →
      after.state.isActive = true
  isActive : after.state.isActive = (start.state.isActive || signals.any Signal.isPress)
  idle :
    after.alarm? .enterIdle =
      if signals.any fun signal => signal.strand? = some .keys then
        if after.state.touch || after.state.button then
          none
        else
          some ⟨start.deadline .enterIdle, .enterIdle⟩
      else
        start.alarm? .enterIdle

/-- One more signal: a press, a release of the last key, or nothing about the keys. -/
theorem KeysAfter.receive
    {signals : List Signal}
    (before : KeysAfter start signals world)
    (operating : Operating world)
    (sameDeadline : world.deadline = start.deadline)
    (signal : Signal) :
    KeysAfter start (signals ++ [signal]) (world.receive signal) := by
  have activity := activityStep_receive operating.toWellFormed signal
  rw [receive_of_operating operating]
  generalize viewIs : (world.react (world.state.receive signal)).activityView = view at activity
  generalize world.react (world.state.receive signal) = after at *
  have touchIs : after.state.touch = view.touch := congrArg ActivityView.touch viewIs
  have buttonIs : after.state.button = view.button := congrArg ActivityView.button viewIs
  have isActiveIs : after.state.isActive = view.isActive := congrArg ActivityView.isActive viewIs
  have idleIs : after.alarm? .enterIdle = view.idle? := congrArg ActivityView.idle? viewIs
  cases activity with
  | kept quiet =>
      obtain ⟨foreign, noPress⟩ := Signal.foreign_of_keys?_eq_none (quiet signal rfl)
      have sameTouch : after.state.touch = world.state.touch := touchIs
      have sameButton : after.state.button = world.state.button := buttonIs
      have sameActive : after.state.isActive = world.state.isActive := isActiveIs
      have sameIdle : after.alarm? .enterIdle = world.alarm? .enterIdle := idleIs
      refine ⟨?_, ?_, ?_⟩
      · rw [sameTouch, sameButton, sameActive]
        exact before.active_of_held
      · rw [sameActive, List.any_append, List.any_cons, noPress]
        simpa using before.isActive
      · rw [sameIdle, sameTouch, sameButton, List.any_append, List.any_cons,
          decide_eq_false foreign]
        simpa using before.idle
  | pressed tells held =>
      obtain ⟨own, -, cause⟩ := Signal.held_of_keys?_eq_some tells
      refine ⟨fun _ => isActiveIs, ?_, ?_⟩
      · -- whoever holds a key now has pressed it, or has been active before
        rw [isActiveIs, List.any_append, List.any_cons]
        rcases cause held with isPress | wasHeld
        · simp [isPress]
        · have wasActive := before.isActive.symm.trans (before.active_of_held wasHeld)
          rw [← Bool.or_assoc, wasActive, Bool.true_or]
      · rw [idleIs, touchIs, buttonIs, List.any_append, List.any_cons, decide_eq_true own, held]
        simp
  | released tells free =>
      obtain ⟨own, holds, -⟩ := Signal.held_of_keys?_eq_some tells
      have noPress : signal.isPress = false := by
        by_contra isPress
        cases free.symm.trans (holds (eq_true_of_ne_false isPress))
      refine ⟨?_, ?_, ?_⟩
      · rw [touchIs, buttonIs]
        intro held
        cases free.symm.trans held
      · rw [isActiveIs, List.any_append, List.any_cons, noPress]
        simpa using before.isActive
      · rw [idleIs, touchIs, buttonIs, List.any_append, List.any_cons, decide_eq_true own, free,
          ← sameDeadline]
        simp

theorem keysAfter_deliverAll
    (operating : Operating start)
    (active_of_held :
      (start.state.touch || start.state.button) = true →
        start.state.isActive = true)
    (signals : List Signal) :
    KeysAfter start signals (start.deliverAll .direct signals) := by
  induction signals using List.reverseRecOn with
  | nil =>
      exact ⟨active_of_held, (Bool.or_false _).symm, rfl⟩
  | append_singleton signals signal before =>
      rw [deliverAll_concat]
      apply before.receive (operating_deliverAll operating signals)
      exact view_deliverAll World.deadline (fun _ _ _ _ _ => rfl) start signals

/-- A strand that keeps its order is the same list of signals. -/
theorem ofStrand_eq_of_sameOrder
    {signals others : List Signal}
    (sameOrder : SameOrder signals others)
    (notKeys : strand ≠ .keys) :
    ofStrand strand signals = ofStrand strand others := by
  cases strand with
  | keys =>
      exact absurd rfl notKeys
  | app =>
      simp only [ofStrand, Signal.strand?_eq_app_iff]
      exact sameOrder.topic .topApp
  | cover =>
      simp only [ofStrand, Signal.strand?_eq_cover_iff]
      exact sameOrder.cover

/-- What the signals of a strand keep holds after all of them. -/
theorem deliverAll_ofStrand_induction
    {motive : World → Prop}
    (kept :
      ∀ {before signal},
        Operating before →
        signal.strand? = some strand →
        motive before →
        motive (before.receive signal))
    (operating : Operating start)
    (atStart : motive start)
    (signals : List Signal) :
    motive (start.deliverAll .direct (ofStrand strand signals)) := by
  have both :
      let after := start.deliverAll .direct (ofStrand strand signals)
      Operating after ∧ motive after := by
    refine
      List.foldlRecOn (motive := fun after => Operating after ∧ motive after)
        (ofStrand strand signals) _ ⟨operating, atStart⟩ ?_
    rintro before ⟨beforeOperating, holds⟩ signal member
    have own : signal.strand? = some strand :=
      of_decide_eq_true (List.mem_filter.mp member).2
    exact ⟨operating_run beforeOperating [.receive signal], kept beforeOperating own holds⟩
  exact both.2

/-- The keys raise no force. -/
theorem isForced_deliverAll_keys
    (operating : Operating start)
    (signals : List Signal) :
    (start.deliverAll .direct (ofStrand .keys signals)).state.gate.isForced =
      start.state.gate.isForced := by
  refine
    deliverAll_ofStrand_induction
      (motive := fun after => after.state.gate.isForced = start.state.gate.isForced)
      ?_ operating rfl signals
  intro before signal beforeOperating own same
  have notRaised : before.state.raisesForce signal = false := by
    rw [raisesForce_eq_forces]
    cases signal with
    | touch pressed =>
        rfl
    | button pressed =>
        rfl
    | _ =>
        cases own
  rw [isForced_receive beforeOperating, notRaised, Bool.false_or, same]

/-- A signal of the keys makes the screen active exactly if it requests a switch. -/
theorem isActive_receive_of_keys
    (operating : Operating world)
    (own : signal.strand? = some .keys) :
    (world.receive signal).state.isActive =
      (world.requests signal || world.state.isActive) := by
  rw [receive_of_operating operating, state_react, requests]
  cases signal with
  | touch pressed =>
      simp only [State.receive, State.onInput]
      split
      · rfl
      · rfl
  | button pressed =>
      simp only [State.receive, State.onInput]
      split
      · rfl
      · rfl
  | _ =>
      cases own

theorem isSwitchQueued_receive_eq_requests
    (operating : Operating world)
    (signal : Signal) :
    (world.receive signal).isSwitchQueued = (world.requests signal || world.isSwitchQueued) :=
  isSwitchQueued_receive operating signal

/-- If the screen is idle after signals of the keys, these have requested no switch. -/
theorem isSwitchQueued_deliverAll_keys
    (operating : Operating start)
    (signals : List Signal)
    (isIdle : (start.deliverAll .direct (ofStrand .keys signals)).state.isActive = false) :
    (start.deliverAll .direct (ofStrand .keys signals)).isSwitchQueued =
      start.isSwitchQueued := by
  revert isIdle
  refine
    deliverAll_ofStrand_induction
      (motive := fun after =>
        after.state.isActive = false → after.isSwitchQueued = start.isSwitchQueued)
      ?_ operating (fun _ => rfl) signals
  intro before signal beforeOperating own quiet isIdle
  rw [isActive_receive_of_keys beforeOperating own] at isIdle
  obtain ⟨noRequest, wasIdle⟩ := Bool.or_eq_false_iff.mp isIdle
  rw [isSwitchQueued_receive_eq_requests beforeOperating, noRequest, Bool.false_or]
  exact quiet wasIdle

section Orders

variable
  {signals others : List Signal}
  (sameOrder : SameOrder signals others)
  (operating : Operating start)

include sameOrder operating

/-- An input that one topic tells ends the same, since its topic keeps its order. -/
theorem input_deliverAll_of_sameOrder
    {Told : Type}
    (input : Inputs → Told)
    (topic : Topic)
    (skips :
      ∀ {inputs signal},
        signal.topic ≠ topic →
        input (inputs.hear signal) = input inputs)
    (keeps :
      ∀ {inputs other signal},
        input inputs = input other →
        input (inputs.hear signal) = input (other.hear signal)) :
    input (start.deliverAll .direct signals).state.inputs =
      input (start.deliverAll .direct others).state.inputs := by
  have alone := input_deliverAll_filter skips keeps operating signals
  have othersAlone := input_deliverAll_filter skips keeps operating others
  rw [sameOrder.topic topic] at alone
  exact alone.trans othersAlone.symm

theorem touch_deliverAll_of_sameOrder :
    (start.deliverAll .direct signals).state.touch =
      (start.deliverAll .direct others).state.touch := by
  refine input_deliverAll_of_sameOrder sameOrder operating Inputs.touch .touch ?_ ?_
  · intro inputs signal foreign
    cases signal with
    | touch pressed =>
        exact absurd rfl foreign
    | _ =>
        rfl
  · intro inputs other signal same
    cases signal with
    | touch pressed =>
        rfl
    | _ =>
        exact same

theorem button_deliverAll_of_sameOrder :
    (start.deliverAll .direct signals).state.button =
      (start.deliverAll .direct others).state.button := by
  refine input_deliverAll_of_sameOrder sameOrder operating Inputs.button .button ?_ ?_
  · intro inputs signal foreign
    cases signal with
    | button pressed =>
        exact absurd rfl foreign
    | _ =>
        rfl
  · intro inputs other signal same
    cases signal with
    | button pressed =>
        rfl
    | _ =>
        exact same

/-- In whatever order the producers come, each strand ends the same. -/
theorem agree_deliverAll_of_sameOrder
    (active_of_held :
      (start.state.touch || start.state.button) = true →
        start.state.isActive = true)
    (strand : Strand) :
    Agree (start.deliverAll .direct signals) (start.deliverAll .direct others) strand := by
  by_cases isKeys : strand = .keys
  · subst isKeys
    have sameTouch := touch_deliverAll_of_sameOrder sameOrder operating
    have sameButton := button_deliverAll_of_sameOrder sameOrder operating
    have after := keysAfter_deliverAll operating active_of_held signals
    have othersAfter := keysAfter_deliverAll operating active_of_held others
    simp only [Agree, activityView, after.isActive, after.idle, othersAfter.isActive,
      othersAfter.idle, sameTouch, sameButton, sameOrder.perm.any_eq]
  · have alone := agree_deliverAll_ofStrand operating strand signals
    have othersAlone := agree_deliverAll_ofStrand operating strand others
    rw [ofStrand_eq_of_sameOrder sameOrder isKeys] at alone
    exact Agree.trans alone (Agree.symm othersAlone)

/-- The force does not depend on the order of the producers. -/
theorem isForced_deliverAll_of_sameOrder :
    (start.deliverAll .direct signals).state.gate.isForced =
      (start.deliverAll .direct others).state.gate.isForced := by
  have byStrand (signals : List Signal) :=
    flag_deliverAll (fun world => world.state.gate.isForced)
      (fun signal operating => isForced_receive operating signal)
      raisesForce_congr_of_agree raisesForce_eq_false_of_none operating signals
  have sameApp : ofStrand .app signals = ofStrand .app others :=
    ofStrand_eq_of_sameOrder sameOrder (by decide)
  have sameCover : ofStrand .cover signals = ofStrand .cover others :=
    ofStrand_eq_of_sameOrder sameOrder (by decide)
  rw [byStrand signals, byStrand others, sameApp, sameCover,
    isForced_deliverAll_keys operating signals, isForced_deliverAll_keys operating others]

/-- Only if the screen is active can the order decide whether a switch is queued. -/
theorem isSwitchQueued_deliverAll_of_sameOrder
    (active_of_held :
      (start.state.touch || start.state.button) = true →
        start.state.isActive = true)
    (isIdle : (start.deliverAll .direct signals).state.isActive = false) :
    (start.deliverAll .direct signals).isSwitchQueued =
      (start.deliverAll .direct others).isSwitchQueued := by
  have byStrand (signals : List Signal) :=
    flag_deliverAll isSwitchQueued
      (fun signal operating => isSwitchQueued_receive_eq_requests operating signal)
      requests_congr requests_eq_false_of_none operating signals
  have keysQuiet {signals : List Signal}
      (isIdle : (start.deliverAll .direct signals).state.isActive = false) :
      (start.deliverAll .direct (ofStrand .keys signals)).isSwitchQueued =
        start.isSwitchQueued := by
    have alone := agree_deliverAll_ofStrand operating .keys signals
    have sameActive := congrArg ActivityView.isActive alone
    exact isSwitchQueued_deliverAll_keys operating signals (sameActive.symm.trans isIdle)
  have agreeKeys := agree_deliverAll_of_sameOrder sameOrder operating active_of_held .keys
  have isIdleOthers : (start.deliverAll .direct others).state.isActive = false :=
    (congrArg ActivityView.isActive agreeKeys).symm.trans isIdle
  have sameApp : ofStrand .app signals = ofStrand .app others :=
    ofStrand_eq_of_sameOrder sameOrder (by decide)
  have sameCover : ofStrand .cover signals = ofStrand .cover others :=
    ofStrand_eq_of_sameOrder sameOrder (by decide)
  rw [byStrand signals, byStrand others, sameApp, sameCover, keysQuiet isIdle,
    keysQuiet isIdleOthers]

/-- In whatever order the producers come, the controller ends the same. -/
theorem state_deliverAll_of_sameOrder
    (active_of_held :
      (start.state.touch || start.state.button) = true →
        start.state.isActive = true) :
    (start.deliverAll .direct signals).state = (start.deliverAll .direct others).state := by
  have agree := agree_deliverAll_of_sameOrder sameOrder operating active_of_held
  have sameForce := isForced_deliverAll_of_sameOrder sameOrder operating
  have lastAppliedIs (signals : List Signal) :
      (start.deliverAll .direct signals).state.gate.lastApplied =
        start.state.gate.lastApplied := by
    induction signals using List.reverseRecOn with
    | nil =>
        rfl
    | append_singleton signals signal inductionHypothesis =>
        rw [deliverAll_concat, gate_receive (operating_deliverAll operating signals)]
        exact inductionHypothesis
  have sameGate :
      (start.deliverAll .direct signals).state.gate =
        (start.deliverAll .direct others).state.gate :=
    congrArg₂ Gate.mk ((lastAppliedIs signals).trans (lastAppliedIs others).symm) sameForce
  exact state_eq_of_agree agree sameGate

end Orders

/-- The worlds agree about what a switch reads and changes. -/
structure SwitchAlike (world other : World) : Prop where
  isAlive : world.isAlive = other.isAlive
  config : world.config = other.config
  state : world.state = other.state
  now : world.now = other.now
  history : world.history = other.history

theorem SwitchAlike.switch
    (alike : SwitchAlike world other) :
    SwitchAlike world.switch other.switch := by
  obtain ⟨isAlive, config, state, now, history⟩ := alike
  have sameEvents : world.switchEvents = other.switchEvents := by
    simp only [switchEvents, target, state, config, now]
  unfold World.switch
  split
  · rename_i alive
    rw [if_pos (isAlive.symm.trans alive)]
    refine ⟨isAlive, config, ?_, now, ?_⟩
    · simp only [state, config]
    · simp only [history, sameEvents]
  · rename_i dropped
    rw [if_neg fun alive => dropped (isAlive.trans alive)]
    exact ⟨isAlive, config, state, now, history⟩

theorem SwitchAlike.iterate
    (alike : SwitchAlike world other)
    (count : Nat) :
    SwitchAlike (World.switch^[count] world) (World.switch^[count] other) := by
  induction count with
  | zero =>
      exact alike
  | succ count inductionHypothesis =>
      rw [Function.iterate_succ_apply', Function.iterate_succ_apply']
      exact inductionHypothesis.switch

/-- A switch to the value that the display has is done, and the gate keeps it back. -/
theorem switch_of_lastApplied
    (isAlive : world.isAlive = true)
    (gateIs : world.state.gate = ⟨some world.target, false⟩) :
    world.switch =
      { world with history := world.history ++ [.switched world.target false] } := by
  have sameState : (world.state.switch world.config.rules).2 = world.state := by
    have gateAfter : (world.state.gate.offer world.target).2 = world.state.gate :=
      (world.state.gate.offer_snd world.target).trans gateIs.symm
    exact congrArg (fun gate => { world.state with gate }) gateAfter
  have oneEvent : world.switchEvents = [.switched world.target false] := by
    rw [switchEvents_eq, gateIs]
    simp
  rw [World.switch, if_pos isAlive, sameState, oneEvent]
namespace SwitchAlike

theorem symm
    (alike : SwitchAlike world other) :
    SwitchAlike other world :=
  ⟨alike.isAlive.symm, alike.config.symm, alike.state.symm, alike.now.symm, alike.history.symm⟩

theorem trans
    {third : World}
    (alike : SwitchAlike world other)
    (later : SwitchAlike other third) :
    SwitchAlike world third :=
  ⟨alike.isAlive.trans later.isAlive, alike.config.trans later.config,
    alike.state.trans later.state, alike.now.trans later.now,
    alike.history.trans later.history⟩

/-- The executor settles by doing the switches on their way. -/
theorem of_settle
    (ready : Ready world) :
    SwitchAlike world.settle (World.switch^[world.switchesOnTheirWay] world) := by
  obtain ⟨executor, settled⟩ := ready.exists_settle_eq_iterate
  rw [settled]
  exact ⟨rfl, rfl, rfl, rfl, rfl⟩

theorem settle
    (alike : SwitchAlike world other)
    (ready : Ready world)
    (otherReady : Ready other)
    (sameRunning : world.executor.isRunning = other.executor.isRunning)
    (sameQueue : world.isSwitchQueued = other.isSwitchQueued) :
    SwitchAlike world.settle other.settle := by
  have sameCount : world.switchesOnTheirWay = other.switchesOnTheirWay := by
    rw [switchesOnTheirWay, switchesOnTheirWay, sameRunning, sameQueue]
  refine (of_settle ready).trans ?_
  rw [sameCount]
  exact (alike.iterate _).trans (of_settle otherReady).symm

/-- A switch that one world has queued in addition shows nothing that is not shown. -/
theorem settle_of_additional
    (alike : SwitchAlike world other)
    (ready : Ready world)
    (otherReady : Ready other)
    (sameRunning : world.executor.isRunning = other.executor.isRunning)
    (queued : world.isSwitchQueued = true)
    (notQueued : other.isSwitchQueued = false)
    (upToDate :
      other.executor.isRunning = false →
        other.state.gate = ⟨some other.target, false⟩) :
    SwitchAlike world.settle
      { other.settle with
        history := other.settle.history ++ [.switched other.settle.target false] } := by
  have oneMore : world.switchesOnTheirWay = other.switchesOnTheirWay + 1 := by
    rw [switchesOnTheirWay, switchesOnTheirWay, sameRunning, queued, notQueued]
    rfl
  have isAlive : other.settle.isAlive = true :=
    (otherReady.of_leads (leads_settle other)).isAlive
  have settled := of_settle otherReady
  have gateIs : other.settle.state.gate = ⟨some other.settle.target, false⟩ := by
    have sameTarget :
        other.settle.target = (World.switch^[other.switchesOnTheirWay] other).target := by
      rw [target, target, settled.state, settled.config]
    rw [settled.state, sameTarget, switchesOnTheirWay, notQueued]
    by_cases running : other.executor.isRunning = true
    · -- the switch that was running has brought the gate up to date
      rw [running]
      exact (gate_switch otherReady.isAlive).trans (by rw [← target_switch]; rfl)
    · have resting := eq_false_of_ne_true running
      rw [resting]
      exact upToDate resting
  have switched := ((of_settle ready).trans (oneMore ▸ alike.iterate _)).trans
    (Function.iterate_succ_apply' World.switch _ other ▸ settled.symm.switch)
  rw [switch_of_lastApplied isAlive gateIs] at switched
  exact switched

end SwitchAlike

/-- Switches leave the debounces alone. -/
theorem Ready.alarm?_settle
    (ready : Ready world)
    (debounce : Debounce) :
    world.settle.alarm? debounce = world.alarm? debounce := by
  obtain ⟨executor, settled⟩ := ready.exists_settle_eq_iterate
  have sameTimers (count : Nat) : (World.switch^[count] world).timers = world.timers := by
    induction count with
    | zero =>
        rfl
    | succ count inductionHypothesis =>
        rw [Function.iterate_succ_apply', timers_switch]
        exact inductionHypothesis
  rw [settled]
  exact congrArg (fun timers => timers.alarm? debounce.handle) (sameTimers _)

/-- Whoever holds a key keeps the screen active. -/
theorem isActive_of_held_run
    (config : Config)
    (moves : List Move)
    (held :
      (((create config).run moves).state.touch || ((create config).run moves).state.button) =
        true) :
    ((create config).run moves).state.isActive = true := by
  have follows := follows_run config moves
  rw [follows.touch, follows.button] at held
  exact (follows.pressed held).1

section Orders

variable
  {signals others : List Signal}
  (config : Config)
  (moves : List Move)
  (sameOrder : SameOrder signals others)

include sameOrder

theorem switchAlike_deliverAll_of_sameOrder :
    SwitchAlike
      (((create config).run moves).deliverAll .direct signals)
      (((create config).run moves).deliverAll .direct others) := by
  have operating := ((ready_create config).run moves).toOperating
  have sameState :=
    state_deliverAll_of_sameOrder sameOrder operating (isActive_of_held_run config moves)
  generalize (create config).run moves = start at *
  have sameView {View : Type} (view : World → View)
      (keepsView :
        ∀ world state timers executor faults,
          view { world with state, timers, executor, faults } = view world) :
      view (start.deliverAll .direct signals) = view (start.deliverAll .direct others) :=
    (view_deliverAll view keepsView start signals).trans
      (view_deliverAll view keepsView start others).symm
  exact
    ⟨sameView World.isAlive fun _ _ _ _ _ => rfl, sameView World.config fun _ _ _ _ _ => rfl,
      sameState, sameView World.now fun _ _ _ _ _ => rfl,
      sameView World.history fun _ _ _ _ _ => rfl⟩

/-- If one order has a switch more in the queue, it is one that shows nothing. -/
theorem settle_deliverAll_of_additional
    (queued : (((create config).run moves).deliverAll .direct signals).isSwitchQueued = true)
    (notQueued : (((create config).run moves).deliverAll .direct others).isSwitchQueued = false) :
    let first := (((create config).run moves).deliverAll .direct signals).settle
    let second := (((create config).run moves).deliverAll .direct others).settle
    SwitchAlike first
      { second with history := second.history ++ [.switched second.target false] } := by
  have start : Ready ((create config).run moves) := (ready_create config).run moves
  have ready (signals : List Signal) :
      Ready (((create config).run moves).deliverAll .direct signals) := by
    rw [deliverAll_eq_run]
    exact start.run _
  have sameRunning :=
    (isRunning_deliverAll start.toOperating signals).trans
      (isRunning_deliverAll start.toOperating others).symm
  refine
    (switchAlike_deliverAll_of_sameOrder config moves sameOrder).settle_of_additional
      (ready signals) (ready others) sameRunning queued notQueued fun notRunning => ?_
  have resting :
      (((create config).run moves).deliverAll .direct others).isSwitching = false :=
    Bool.or_eq_false_iff.mpr ⟨notQueued, notRunning⟩
  have upToDate := upToDate_run config (moves ++ others.map .receive)
  rw [run_append, ← deliverAll_eq_run] at upToDate
  rcases upToDate.lastApplied resting with ⟨-, fresh⟩ | applied
  · -- an order with a switch more has made the screen active
    have sameQueue :=
      isSwitchQueued_deliverAll_of_sameOrder sameOrder.symm start.toOperating
        (isActive_of_held_run config moves) fresh.isActive
    cases (notQueued.symm.trans sameQueue).trans queued
  · exact congrArg₂ Gate.mk applied (upToDate.notForced resting)

/--
When the executor was busy while several producers sent signals, then after it has run
it does not matter in which order they came: the state, the armed debounces and their
deadlines, and what has reached the display are the same.  At most one of the orders
has a switch more, which the gate keeps back.
-/
theorem settle_deliverAll_of_sameOrder :
    let start := (create config).run moves
    let first := (start.deliverAll .direct signals).settle
    let second := (start.deliverAll .direct others).settle
    first.state = second.state ∧
      (∀ debounce, first.alarm? debounce = second.alarm? debounce) ∧
        (first.history = second.history ∨
          first.history = second.history ++ [.switched second.target false] ∨
            second.history = first.history ++ [.switched first.target false]) := by
  intro start first second
  have startReady : Ready start := (ready_create config).run moves
  have ready (signals : List Signal) : Ready (start.deliverAll .direct signals) := by
    rw [deliverAll_eq_run]
    exact startReady.run _
  have sameAlarm (debounce : Debounce) : first.alarm? debounce = second.alarm? debounce := by
    have agree :=
      agree_deliverAll_of_sameOrder sameOrder startReady.toOperating
        (isActive_of_held_run config moves)
    rw [(ready signals).alarm?_settle, (ready others).alarm?_settle]
    cases debounce with
    | enterIdle =>
        exact congrArg ActivityView.idle? (agree .keys)
    | exitGesture =>
        exact congrArg OverrideView.gestureExit? (agree .cover)
    | exitOffscreen =>
        exact congrArg OverrideView.offscreenExit? (agree .cover)
  by_cases sameQueue :
      (start.deliverAll .direct signals).isSwitchQueued =
        (start.deliverAll .direct others).isSwitchQueued
  · have sameRunning :=
      (isRunning_deliverAll startReady.toOperating signals).trans
        (isRunning_deliverAll startReady.toOperating others).symm
    have settled :=
      (switchAlike_deliverAll_of_sameOrder config moves sameOrder).settle (ready signals)
        (ready others) sameRunning sameQueue
    exact ⟨settled.state, sameAlarm, .inl settled.history⟩
  · cases queued : (start.deliverAll .direct others).isSwitchQueued with
    | false =>
        rw [queued] at sameQueue
        have settled :=
          settle_deliverAll_of_additional config moves sameOrder
            (eq_true_of_ne_false sameQueue) queued
        exact ⟨settled.state, sameAlarm, .inr (.inl settled.history)⟩
    | true =>
        rw [queued] at sameQueue
        have settled :=
          settle_deliverAll_of_additional config moves sameOrder.symm queued
            (eq_false_of_ne_true sameQueue)
        exact ⟨settled.state.symm, sameAlarm, .inr (.inr settled.history)⟩

end Orders

/-- A finger is on the screen, and the switch for it was done. -/
def fingerDown : List Move :=
  [.receive (.topApp "com.game"), .receive (.touch true), .work, .work, .work, .work, .work]

/-- The finger goes up, and the button tells again that it is not pressed. -/
def releases : List Signal :=
  [.touch false, .button false]

/-- Told in this order, the button requests a switch, since the finger is still down. -/
def releasesReversed : List Signal :=
  [.button false, .touch false]

theorem settle_deliverAll_releases :
    let start := (create sampleConfig).run fingerDown
    let first := (start.deliverAll .direct releases).settle
    let second := (start.deliverAll .direct releasesReversed).settle
    (start.deliverAll .direct releases).isSwitchQueued = false ∧
      (start.deliverAll .direct releasesReversed).isSwitchQueued = true ∧
        first.state = second.state ∧
          second.alarm? .enterIdle = some ⟨1000, .enterIdle⟩ ∧
            (first.history = second.history ∨
              first.history = second.history ++ [.switched second.target false] ∨
                second.history = first.history ++ [.switched first.target false]) := by
  intro start first second
  have sameOrder : SameOrder releases releasesReversed := by
    refine ⟨.swap _ _ _, ?_, rfl⟩
    intro topic
    cases topic <;> rfl
  obtain ⟨sameState, sameAlarm, history⟩ :=
    settle_deliverAll_of_sameOrder sampleConfig fingerDown sameOrder
  have ready := (ready_create sampleConfig).run (fingerDown ++ releases.map .receive)
  rw [run_append, ← deliverAll_eq_run] at ready
  have armed : second.alarm? .enterIdle = some ⟨1000, .enterIdle⟩ := by
    rw [← sameAlarm, ready.alarm?_settle]
    decide
  exact ⟨by decide, by decide, sameState, armed, history⟩

end Controller.World

end RefreshRate
