import RefreshRate.Proofs.Controller.Ready
import RefreshRate.Proofs.Controller.Switching

namespace RefreshRate.Controller

/-!
# Requests that become one

While the executor is busy with other work, the requests of several signals become
one.  The one switch that is done in the end leaves the controller as it would have
been left by a switch after each signal: the gate remembers the last target either
way, and the force of any of the signals reaches the one switch.
-/

/-- The target and the force of a switch. -/
def Event.switch? : Event → Option (Int × Bool)
  | .switched value forced =>
      some (value, forced)
  | .applied _ _ _ _ =>
      none

/-- The switches among some events. -/
def switches (events : List Event) : List (Int × Bool) :=
  events.filterMap Event.switch?

theorem switches_append
    (events later : List Event) :
    switches (events ++ later) = switches events ++ switches later :=
  List.filterMap_append

namespace State

variable {state : State}

/-- The state with nothing in its gate. -/
def ungated (state : State) : State :=
  { state with gate := {} }

/-- Whether a signal raises the force. -/
def raisesForce
    (state : State)
    (signal : Signal) :
    Bool :=
  (state.ungated.receive signal).1.gate.isForced

/-- Whatever is in the gate, a signal has the same effect, and may raise the force. -/
theorem receive_eq_withGate
    (state : State)
    (signal : Signal) :
    state.receive signal =
      ({ (state.ungated.receive signal).1 with
          gate :=
            { state.gate with isForced := state.raisesForce signal || state.gate.isForced } },
        (state.ungated.receive signal).2) := by
  cases signal with
  | touch pressed =>
      cases held : pressed || state.button with
      | false =>
          simp [receive, onInput, raisesForce, ungated, held]
      | true =>
          simp [receive, onInput, raisesForce, ungated, held]
  | button pressed =>
      cases held : state.touch || pressed with
      | false =>
          simp [receive, onInput, raisesForce, ungated, held]
      | true =>
          simp [receive, onInput, raisesForce, ungated, held]
  | inputState input =>
      cases inGesture : input.inGesture with
      | false =>
          simp [receive, onInputState, raisesForce, ungated, inGesture]
      | true =>
          simp [receive, onInputState, raisesForce, ungated, inGesture]
  | topApp app =>
      by_cases same : app = state.app
      · simp [receive, onTopApp, raisesForce, ungated, same]
      · simp [receive, onTopApp, raisesForce, ungated, same, raiseForce, Gate.raiseForce]
  | offscreen isOff =>
      by_cases same : isOff = state.isOffscreen
      · simp [receive, onOffscreen, raisesForce, ungated, same]
      · cases isOff with
        | false =>
            simp [receive, onOffscreen, raisesForce, ungated, same]
        | true =>
            simp [receive, onOffscreen, raisesForce, ungated, same, raiseForce, Gate.raiseForce]
  | cgroup group tasks =>
      rfl

theorem requestSwitch_mem_of_raisesForce
    {signal : Signal}
    (raises : state.raisesForce signal = true) :
    .requestSwitch ∈ (state.receive signal).2 := by
  rw [receive_eq_withGate]
  rcases (heeds_receive state.ungated signal).requestsOrAlike with requests | alike
  · exact requests
  · rw [raisesForce, alike.gate] at raises
    cases raises

end State

namespace World

variable {world other : World}

/-- The world without what a switch and the executor touch. -/
def plain (world : World) : World :=
  { world with
    state := world.state.ungated
    executor := {}
    history := [] }

theorem plain_switch (world : World) : world.switch.plain = world.plain := by
  unfold switch
  split
  · rfl
  · rfl

/-- When the executor settles, it touches nothing but what a switch touches. -/
theorem Ready.plain_settle
    (ready : Ready world)
    (oneAtMost : world.isSwitchQueued = true → world.executor.isRunning = false) :
    world.settle.plain = world.plain := by
  obtain ⟨executor, settled⟩ := ready.exists_settle_eq_caughtUp oneAtMost
  rw [settled, caughtUp]
  split
  · exact plain_switch world
  · rfl

theorem plain_carryOut
    (world : World)
    (command : Command) :
    (world.carryOut command).plain = (world.plain.carryOut command).plain := by
  cases command with
  | requestSwitch =>
      rfl
  | arm debounce =>
      rfl
  | cancel debounce =>
      rfl

theorem plain_foldl_carryOut
    (world : World)
    (commands : List Command) :
    (commands.foldl carryOut world).plain = (commands.foldl carryOut world.plain).plain := by
  induction commands generalizing world with
  | nil =>
      rfl
  | cons command rest inductionHypothesis =>
      rw [List.foldl_cons, List.foldl_cons, inductionHypothesis, plain_carryOut,
        ← inductionHypothesis]

theorem plain_receive
    (operating : Operating world)
    (signal : Signal) :
    (world.receive signal).plain =
      ((world.plain.state.receive signal).2.foldl carryOut
        { world.plain with state := (world.plain.state.receive signal).1.ungated }).plain := by
  rw [receive_of_operating operating, react_eq_foldl operating.toWellFormed,
    plain_foldl_carryOut, State.receive_eq_withGate]
  rfl

/-- What a signal does apart from the gate does not depend on the gate or the executor. -/
theorem plain_receive_congr
    (operating : Operating world)
    (otherOperating : Operating other)
    (same : world.plain = other.plain)
    (signal : Signal) :
    (world.receive signal).plain = (other.receive signal).plain := by
  rw [plain_receive operating, plain_receive otherOperating, same]

theorem commands_congr
    (same : world.plain = other.plain)
    (signal : Signal) :
    (world.state.receive signal).2 = (other.state.receive signal).2 := by
  rw [world.state.receive_eq_withGate, other.state.receive_eq_withGate]
  exact congrArg (fun plain => (plain.state.receive signal).2) same

theorem raisesForce_congr
    (same : world.plain = other.plain)
    (signal : Signal) :
    world.state.raisesForce signal = other.state.raisesForce signal :=
  congrArg (fun plain => (plain.state.receive signal).1.gate.isForced) same

theorem gate_receive
    (operating : Operating world)
    (signal : Signal) :
    (world.receive signal).state.gate =
      { world.state.gate with
        isForced := world.state.raisesForce signal || world.state.gate.isForced } := by
  rw [receive_of_operating operating, state_react, State.receive_eq_withGate]

theorem target_congr
    (same : world.plain = other.plain) :
    world.target = other.target := by
  have targetIs (world : World) : world.target = world.plain.target := rfl
  rw [targetIs world, targetIs other, same]

/-- Worlds that are the same apart from what a switch touches differ in gates at most. -/
theorem eq_of_plain_eq
    (same : world.plain = other.plain)
    (sameGate : world.state.gate = other.state.gate) :
    { world with
      executor := other.executor
      history := other.history } = other := by
  obtain ⟨config, isAlive, ⟨touch, button, isActive, app, override, isOffscreen, gate⟩, now,
    timers, executor, bus, history, faults⟩ := world
  obtain ⟨config, isAlive, ⟨touch, button, isActive, app, override, isOffscreen, gate⟩, now,
    timers, executor, bus, history, faults⟩ := other
  simp only [plain, State.ungated, mk.injEq, State.mk.injEq] at same sameGate ⊢
  simp [same, sameGate]

theorem isSwitchQueued_receive
    (operating : Operating world)
    (signal : Signal) :
    (world.receive signal).isSwitchQueued =
      (decide (.requestSwitch ∈ (world.state.receive signal).2) || world.isSwitchQueued) := by
  rw [receive_of_operating operating]
  exact isSwitchQueued_react operating.toWellFormed _

theorem history_receive
    (operating : Operating world)
    (signal : Signal) :
    (world.receive signal).history = world.history := by
  rw [receive_of_operating operating]
  exact history_react world _

theorem isRunning_receive
    (operating : Operating world)
    (signal : Signal) :
    (world.receive signal).executor.isRunning = world.executor.isRunning := by
  rw [receive_of_operating operating, Executor.isRunning, worker_react operating.toWellFormed]
  rfl

/-- A switch is on its way after several signals if one of them has requested it. -/
theorem isSwitchQueued_deliverAll
    (operating : Operating world)
    (signals : List Signal) :
    (world.deliverAll .direct signals).isSwitchQueued =
      (decide (.requestSwitch ∈ world.issued (signals.map .receive)) ||
        world.isSwitchQueued) := by
  induction signals generalizing world with
  | nil =>
      rfl
  | cons signal rest inductionHypothesis =>
      have operatingNext : Operating (world.receive signal) :=
        operating_run operating [.receive signal]
      have queuedLater := inductionHypothesis operatingNext
      simp only [deliverAll, List.foldl_cons, deliver] at queuedLater ⊢
      rw [queuedLater, isSwitchQueued_receive operating]
      simp only [List.map_cons, issued, commands, operating.isAlive, if_true, step,
        List.mem_append]
      by_cases requests : .requestSwitch ∈ (world.state.receive signal).2
      · simp [requests]
      · simp [requests]

/-- A switch resolves the target once, with the force of the gate. -/
theorem switches_switchEvents (world : World) :
    switches world.switchEvents = [(world.target, world.state.gate.isForced)] := by
  unfold switches switchEvents
  cases (world.state.switch world.config.rules).1 with
  | none =>
      rfl
  | some admission =>
      rfl

theorem history_switch
    (isAlive : world.isAlive = true) :
    world.switch.history = world.history ++ world.switchEvents := by
  simp only [switch, isAlive, if_true]

/-- A signal that is sent while no switch is on its way has one switch done, or none. -/
theorem Ready.exists_send_eq
    (ready : Ready world)
    (resting : world.isSwitching = false)
    (signal : Signal) :
    ∃ executor,
      world.send .direct signal =
        { (if .requestSwitch ∈ (world.state.receive signal).2 then (world.receive signal).switch
            else world.receive signal) with executor } := by
  obtain ⟨notQueued, notRunning⟩ := Bool.or_eq_false_iff.mp resting
  have received : Ready (world.receive signal) := ready.step (.receive signal)
  have stillNotRunning : (world.receive signal).executor.isRunning = false :=
    (isRunning_receive ready.toOperating signal).trans notRunning
  have switching :
      (world.receive signal).isSwitching =
        decide (.requestSwitch ∈ (world.state.receive signal).2) := by
    rw [isSwitching, stillNotRunning, isSwitchQueued_receive ready.toOperating, notQueued,
      Bool.or_false, Bool.or_false]
  obtain ⟨executor, settled⟩ := received.exists_settle_eq_caughtUp fun _ => stillNotRunning
  refine ⟨executor, settled.trans ?_⟩
  simp only [caughtUp, switching, decide_eq_true_eq]

/--
One world has taken in signals while the executor was busy; the other one has settled
after each of them.  What makes them differ is left to the switch that waits.
-/
structure Coalesces (start busy settled : World) : Prop where
  busyReady : Ready busy
  settledReady : Ready settled
  samePlain : busy.plain = settled.plain
  notRunning : busy.executor.isRunning = false
  resting : settled.isSwitching = false
  notForced : settled.state.gate.isForced = false
  requestedOrSame :
    busy.isSwitchQueued = true ∧ settled.state.gate.lastApplied = some busy.target ∨
      busy.isSwitchQueued = false ∧ settled.state.gate = busy.state.gate
  sameHistory : busy.history = start.history
  forces :
    ∃ events,
      settled.history = start.history ++ events ∧
        (switches events).any Prod.snd = busy.state.gate.isForced

namespace Coalesces

variable {start busy settled : World} {signal : Signal}

/-- A signal that requests a switch. -/
theorem receive_of_requests
    (coalesces : Coalesces start busy settled)
    (requests : .requestSwitch ∈ (busy.state.receive signal).2) :
    Coalesces start (busy.receive signal) (settled.send .direct signal) := by
  obtain ⟨busyReady, settledReady, samePlain, notRunning, resting, notForced, -,
    sameHistory, events, history, forces⟩ := coalesces
  have busyOperating := busyReady.toOperating
  have settledOperating := settledReady.toOperating
  have received : Ready (settled.receive signal) := settledReady.step (.receive signal)
  have receivedPlain : (busy.receive signal).plain = (settled.receive signal).plain :=
    plain_receive_congr busyOperating settledOperating samePlain signal
  obtain ⟨executor, sent⟩ := settledReady.exists_send_eq resting signal
  rw [← commands_congr samePlain signal, if_pos requests] at sent
  have gateAfter : (settled.send .direct signal).state.gate =
      ⟨some (settled.receive signal).target, false⟩ := by
    rw [sent]
    exact gate_switch received.isAlive
  have historyAfter :
      (settled.send .direct signal).history =
        start.history ++ (events ++ (settled.receive signal).switchEvents) := by
    rw [sent, ← List.append_assoc, ← history, ← history_receive settledOperating signal]
    exact history_switch received.isAlive
  refine
    ⟨busyReady.step (.receive signal), received.of_leads (leads_settle _), ?_, ?_,
      received.isSwitching_settle, ?_, ?_, ?_, _, historyAfter, ?_⟩
  · rw [receivedPlain, sent]
    exact (plain_switch _).symm
  · exact (isRunning_receive busyOperating signal).trans notRunning
  · exact congrArg Gate.isForced gateAfter
  · refine .inl ⟨?_, ?_⟩
    · rw [isSwitchQueued_receive busyOperating, decide_eq_true requests, Bool.true_or]
    · rw [target_congr receivedPlain]
      exact congrArg Gate.lastApplied gateAfter
  · exact (history_receive busyOperating signal).trans sameHistory
  · rw [switches_append, List.any_append, forces, switches_switchEvents,
      gate_receive busyOperating, gate_receive settledOperating, notForced,
      raisesForce_congr samePlain]
    simp [Bool.or_comm]

/-- A signal that requests no switch. -/
theorem receive_of_quiet
    (coalesces : Coalesces start busy settled)
    (quiet : .requestSwitch ∉ (busy.state.receive signal).2) :
    Coalesces start (busy.receive signal) (settled.send .direct signal) := by
  obtain ⟨busyReady, settledReady, samePlain, notRunning, resting, notForced, requestedOrSame,
    sameHistory, events, history, forces⟩ := coalesces
  have busyOperating := busyReady.toOperating
  have settledOperating := settledReady.toOperating
  have received : Ready (settled.receive signal) := settledReady.step (.receive signal)
  have receivedPlain : (busy.receive signal).plain = (settled.receive signal).plain :=
    plain_receive_congr busyOperating settledOperating samePlain signal
  have notRaised : busy.state.raisesForce signal = false :=
    Bool.eq_false_iff.mpr fun raises =>
      quiet (State.requestSwitch_mem_of_raisesForce raises)
  have busyGate : (busy.receive signal).state.gate = busy.state.gate := by
    rw [gate_receive busyOperating, notRaised, Bool.false_or]
  have sameTarget : (busy.receive signal).target = busy.target := by
    -- what requests no switch changes nothing that a switch would read
    have alike := (State.heeds_receive busy.state signal).requestsOrAlike.resolve_left quiet
    rw [receive_of_operating busyOperating, target, target, state_react, config_react]
    exact alike.target_eq _
  have sameQueue : (busy.receive signal).isSwitchQueued = busy.isSwitchQueued := by
    rw [isSwitchQueued_receive busyOperating, decide_eq_false quiet, Bool.false_or]
  obtain ⟨executor, sent⟩ := settledReady.exists_send_eq resting signal
  rw [← commands_congr samePlain signal, if_neg quiet] at sent
  have gateAfter : (settled.send .direct signal).state.gate = settled.state.gate := by
    rw [sent]
    simp only [gate_receive settledOperating, ← raisesForce_congr samePlain, notRaised,
      Bool.false_or]
  have historyAfter :
      (settled.send .direct signal).history = start.history ++ events := by
    rw [sent, ← history]
    exact history_receive settledOperating signal
  refine
    ⟨busyReady.step (.receive signal), received.of_leads (leads_settle _), ?_, ?_,
      received.isSwitching_settle, ?_, ?_, ?_, events, historyAfter, ?_⟩
  · rw [receivedPlain, sent]
    rfl
  · exact (isRunning_receive busyOperating signal).trans notRunning
  · rw [gateAfter]
    exact notForced
  · rw [sameQueue, sameTarget, gateAfter, busyGate]
    exact requestedOrSame
  · exact (history_receive busyOperating signal).trans sameHistory
  · rw [busyGate]
    exact forces

/-- Signals keep the worlds together. -/
theorem deliverAll
    (coalesces : Coalesces start busy settled)
    (signals : List Signal) :
    Coalesces start
      (busy.deliverAll .direct signals)
      (signals.foldl (fun world signal => world.send .direct signal) settled) := by
  induction signals generalizing busy settled with
  | nil =>
      exact coalesces
  | cons signal rest inductionHypothesis =>
      by_cases requests : .requestSwitch ∈ (busy.state.receive signal).2
      · exact inductionHypothesis (coalesces.receive_of_requests requests)
      · exact inductionHypothesis (coalesces.receive_of_quiet requests)

/-- The switch that waits, if there is one, makes up for the difference. -/
theorem settle
    (coalesces : Coalesces start busy settled) :
    busy.settle.state.gate = settled.state.gate ∧
      ∃ events,
        busy.settle.history = start.history ++ events ∧
          switches events =
            if busy.isSwitchQueued then [(busy.target, busy.state.gate.isForced)] else [] := by
  obtain ⟨executor, settling⟩ :=
    coalesces.busyReady.exists_settle_eq_caughtUp fun _ => coalesces.notRunning
  have switching : busy.isSwitching = busy.isSwitchQueued := by
    rw [isSwitching, coalesces.notRunning, Bool.or_false]
  rw [caughtUp, switching] at settling
  rcases coalesces.requestedOrSame with ⟨queued, applied⟩ | ⟨notQueued, sameGate⟩
  · rw [if_pos queued] at settling
    rw [settling, if_pos queued]
    refine ⟨?_, busy.switchEvents, ?_, ?_⟩
    · have settledGate : settled.state.gate = ⟨some busy.target, false⟩ :=
        congrArg₂ Gate.mk applied coalesces.notForced
      exact (gate_switch coalesces.busyReady.isAlive).trans settledGate.symm
    · rw [← coalesces.sameHistory]
      exact history_switch coalesces.busyReady.isAlive
    · exact switches_switchEvents busy
  · have nothingWaits : ¬busy.isSwitchQueued = true := by
      rw [notQueued]
      exact Bool.false_ne_true
    rw [if_neg nothingWaits] at settling
    rw [settling, if_neg nothingWaits]
    refine ⟨sameGate.symm, [], ?_, rfl⟩
    rw [List.append_nil]
    exact coalesces.sameHistory

end Coalesces

/-- Where no switch is on its way and nothing is forced, busy and settled are the same. -/
theorem Coalesces.refl
    (ready : Ready world)
    (resting : world.isSwitching = false)
    (notForced : world.state.gate.isForced = false) :
    Coalesces world world world := by
  obtain ⟨notQueued, notRunning⟩ := Bool.or_eq_false_iff.mp resting
  refine
    ⟨ready, ready, rfl, notRunning, resting, notForced, .inr ⟨notQueued, rfl⟩, rfl, [], ?_, ?_⟩
  · rw [List.append_nil]
  · exact notForced.symm

/--
Delivering signals while the executor is busy leads to the same controller as letting
the executor settle after each of them.  If one of the signals requests a switch, one
switch is done in the end: it resolves the last target, and it is forced if one of the
switches that settle each signal is forced.  Otherwise none is done.
-/
theorem settle_deliverAll_agrees_with_send
    (config : Config)
    (moves : List Move)
    (resting : ((create config).run moves).isSwitching = false)
    (signals : List Signal) :
    let start := (create config).run moves
    let together := (start.deliverAll .direct signals).settle
    let oneByOne := signals.foldl (fun world signal => world.send .direct signal) start
    { together with
        executor := oneByOne.executor
        history := oneByOne.history } = oneByOne ∧
      together.state.gate.isForced = false ∧
        ∃ events eventsOneByOne,
          together.history = start.history ++ events ∧
            oneByOne.history = start.history ++ eventsOneByOne ∧
              switches events =
                if .requestSwitch ∈ start.issued (signals.map .receive) then
                  [(together.target, (switches eventsOneByOne).any Prod.snd)]
                else
                  [] := by
  intro start together oneByOne
  have ready : Ready start := (ready_create config).run moves
  have notForced : start.state.gate.isForced = false :=
    (upToDate_run config moves).notForced resting
  have coalesces := (Coalesces.refl ready resting notForced).deliverAll signals
  obtain ⟨eventsOneByOne, historyOneByOne, forces⟩ := coalesces.forces
  obtain ⟨sameGate, events, history, switched⟩ := coalesces.settle
  have settledPlain : together.plain = (start.deliverAll .direct signals).plain :=
    coalesces.busyReady.plain_settle fun _ => coalesces.notRunning
  have queued :
      (start.deliverAll .direct signals).isSwitchQueued =
        decide (.requestSwitch ∈ start.issued (signals.map .receive)) := by
    rw [isSwitchQueued_deliverAll ready.toOperating, (Bool.or_eq_false_iff.mp resting).1,
      Bool.or_false]
  have sameTarget : (start.deliverAll .direct signals).target = together.target :=
    target_congr settledPlain.symm
  refine
    ⟨eq_of_plain_eq (settledPlain.trans coalesces.samePlain) sameGate, ?_, events,
      eventsOneByOne, history, historyOneByOne, ?_⟩
  · exact (congrArg Gate.isForced sameGate).trans coalesces.notForced
  · rw [switched, queued, sameTarget, forces]
    simp only [decide_eq_true_eq]

/-- An app is on top, and its switch was done. -/
def appOnTop : List Move :=
  [.receive (.topApp "com.game"), .work, .work, .work, .work, .work]

/-- Another app comes to the top for a moment, and a press stays. -/
def awayAndBack : List Signal :=
  [.topApp "com.other", .touch true, .topApp "com.game"]

theorem settle_deliverAll_awayAndBack :
    ((create sampleConfig).run appOnTop).isSwitching = false ∧
      (((create sampleConfig).run appOnTop).deliverAll .direct awayAndBack).settle.state =
          (awayAndBack.foldl (fun world signal => world.send .direct signal)
            ((create sampleConfig).run appOnTop)).state ∧
        ∃ events forced,
          (((create sampleConfig).run appOnTop).deliverAll .direct awayAndBack).settle.history =
              ((create sampleConfig).run appOnTop).history ++ events ∧
            switches events = [(144, forced)] := by
  have resting : ((create sampleConfig).run appOnTop).isSwitching = false := by
    decide
  obtain ⟨same, -, events, eventsOneByOne, history, -, switched⟩ :=
    settle_deliverAll_agrees_with_send sampleConfig appOnTop resting awayAndBack
  have requests :
      .requestSwitch ∈ ((create sampleConfig).run appOnTop).issued (awayAndBack.map .receive) := by
    decide
  have target :
      (((create sampleConfig).run appOnTop).deliverAll .direct awayAndBack).settle.target =
        144 := by
    have ready := (ready_create sampleConfig).run (appOnTop ++ awayAndBack.map .receive)
    have settledPlain := ready.plain_settle (by decide)
    rw [run_append] at settledPlain
    exact (target_congr settledPlain).trans (by decide)
  have sameState := congrArg World.state same
  rw [if_pos requests, target] at switched
  exact ⟨resting, sameState, events, _, history, switched⟩

end World

end RefreshRate.Controller
