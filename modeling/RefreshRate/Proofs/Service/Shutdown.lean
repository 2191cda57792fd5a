import RefreshRate.Proofs.Executor.Drain
import RefreshRate.Proofs.Timer.Tick
import RefreshRate.Service

namespace RefreshRate

/-!
# Shutdown drains the executor and silences the timers

A service stops its timers first and then lets its executor do what is queued, also what
its timers have queued before.  When the stop has succeeded no timer fires any more, and
a work that is queued after that is not done.
-/

namespace Executor.Bench

variable {bench next later last : Bench}

/-- A bench comes to be another one and is not told to stop meanwhile. -/
def LeadsOn (bench later : Bench) : Prop :=
  ∃ moves, .stop ∉ moves ∧ Leads bench moves later

theorem LeadsOn.refl (bench : Bench) : LeadsOn bench bench :=
  ⟨[], List.not_mem_nil, .refl bench⟩

theorem LeadsOn.trans
    (leads : LeadsOn bench later)
    (onwards : LeadsOn later last) :
    LeadsOn bench last := by
  obtain ⟨moves, noStop, leads⟩ := leads
  obtain ⟨others, noStopLater, onwards⟩ := onwards
  refine ⟨moves ++ others, ?_, leads.trans onwards⟩
  intro member
  rcases List.mem_append.mp member with inMoves | inOthers
  · exact noStop inMoves
  · exact noStopLater inOthers

theorem stop_not_mem_of_acts
    {acts : List (Move Work)}
    (areActs : ∀ move ∈ acts, move.isAct = true) :
    .stop ∉ acts := by
  intro member
  cases areActs .stop member

theorem leadsOn_perform
    (bench : Bench)
    (action : Action) :
    LeadsOn bench (bench.perform action).2 :=
  ⟨action.moves, stop_not_mem_of_acts fun _ => isAct_of_mem_moves, leads_perform bench action⟩

theorem leadsOn_put
    (bench : Bench)
    (handle : Nat)
    (work : Work) :
    LeadsOn bench (bench.put handle work .done .refused).2 :=
  ⟨[.put handle work], by simp, leads_put ..⟩

theorem leadsOn_performAll
    (bench : Bench)
    (script : List Action) :
    LeadsOn bench (bench.performAll script).2 :=
  ⟨scriptMoves bench.executor script,
    stop_not_mem_of_acts fun _ => isAct_of_mem_scriptMoves, leads_performAll bench script⟩

theorem leadsOn_of_step?
    (stepped : crew.step? bench = some next) :
    LeadsOn bench next := by
  refine ⟨bench.executor.movesInHand ++ [.work], ?_, leads_of_step? stepped⟩
  intro member
  rcases List.mem_append.mp member with inActs | isWork
  · exact stop_not_mem_of_acts (fun _ => isAct_of_mem_movesInHand) inActs
  · cases List.mem_singleton.mp isWork

theorem leadsOn_settleUntil
    (isReached : Bench → Bool)
    (bench : Bench) :
    LeadsOn bench (crew.settleUntil isReached bench) := by
  fun_induction crew.settleUntil isReached bench with
  | case1 bench reached =>
      exact .refl bench
  | case2 bench notReached resting =>
      exact .refl bench
  | case3 bench notReached next stepped inductionHypothesis =>
      exact (leadsOn_of_step? stepped).trans inductionHypothesis

/-- An executor that has never been told to stop serves on. -/
theorem LeadsOn.isServing
    (leads : LeadsOn {} bench) :
    bench.executor.IsServing := by
  obtain ⟨moves, noStop, leads⟩ := leads
  rw [leads.executor]
  exact isServing_run ⟨rfl, by rintro ⟨⟩⟩ noStop

/-- A bench that is told to stop drains, if its worker has not left anything behind already. -/
theorem exists_drained_settle
    {moves : List (Move Work)}
    (leads : Leads {} moves bench)
    (stopping : bench.executor.isStopping = true)
    (drainedAlready : bench.executor.worker = .exited → Drained moves) :
    ∃ others, Leads bench others bench.settle ∧ Drained (moves ++ others) := by
  unfold settle Crew.settle
  fun_induction Crew.settleUntil crew (fun _ => false) bench generalizing moves with
  | case1 bench reached =>
      cases reached
  | case2 bench notReached resting =>
      refine ⟨[], .refl bench, ?_⟩
      rw [List.append_nil]
      exact drainedAlready (crew.exited_of_step?_eq_none stopping resting)
  | case3 bench notReached next stepped inductionHypothesis =>
      have onwards := leads_of_step? stepped
      have areActs : ∀ move ∈ bench.executor.movesInHand, move.isAct = true :=
        fun _ => isAct_of_mem_movesInHand
      generalize bench.executor.movesInHand = acts at onwards areActs
      have stillStopping : next.executor.isStopping = true := by
        rw [onwards.executor]
        exact isStopping_run stopping _
      have drainedOnExit (exited : next.executor.worker = .exited) :
          Drained (moves ++ (acts ++ [.work])) := by
        rw [(leads.trans onwards).executor] at exited
        rw [← List.append_assoc] at exited ⊢
        refine drained_of_exits ?_ exited
        rw [run_append, (worker_run_of_acts areActs _).1, ← leads.executor]
        exact crew.not_exited_of_step?_eq_some stepped
      obtain ⟨others, settles, drained⟩ :=
        inductionHypothesis (leads.trans onwards) stillStopping drainedOnExit
      refine ⟨acts ++ [.work] ++ others, onwards.trans settles, ?_⟩
      rw [← List.append_assoc]
      exact drained

end Executor.Bench

namespace Service

open Executor (Move Drained)
open Executor.Bench (Leads LeadsOn crew)

variable {service stopped : Service}

/-- A service that has been stopped has done what was queued, and it does nothing any more. -/
structure IsSilent (service stopped : Service) : Prop where
  drained :
    ∃ before drain,
      Leads {} before service.heavy ∧
        Leads service.heavy drain stopped.heavy ∧ Drained (before ++ drain)
  fired : stopped.fired = service.fired
  firesNoMore : ∀ operations, (stopped.operateAll operations).fired = stopped.fired
  doesNoMore : ∀ operations, (stopped.operateAll operations).heavy.done = stopped.heavy.done

/--
A service is stopped while others go on: the task of its timers was joined, and then its
worker has stopped.
-/
structure IsOrderly (service joined stopped : Service) : Prop where
  /-- What was queued before the worker exits is done, whoever has queued it, and nothing else. -/
  drained :
    ∃ before drain later,
      Leads {} before service.heavy ∧
        Leads service.heavy (drain ++ later) stopped.heavy ∧ Drained (before ++ drain)
  /-- A timer may still fire that was on its way when the timers were cancelled. -/
  atMostOnce : joined.fired = service.fired ∨ ∃ last, joined.fired = service.fired ++ [last]
  fired : stopped.fired = joined.fired
  firesNoMore : ∀ operations, (joined.operateAll operations).fired = joined.fired
  doesNoMore : ∀ operations, (stopped.operateAll operations).heavy.done = stopped.heavy.done

/-- A cancelled task wakes up once more, unless it has ended. -/
theorem wakeUpLast_cases (service : Service) :
    service.wakeUpLast = service ∨
      service.timersEnded = false ∧
        service.wakeUpLast =
          { host.wakeUp (service.now + 1) service with
            now := service.now + 1
            timersEnded := true } := by
  unfold wakeUpLast
  split
  · rename_i mayWake
    obtain ⟨-, notEnded⟩ := Bool.and_eq_true_iff.mp mayWake
    exact .inr ⟨Bool.not_eq_eq_eq_not.mp notEnded, rfl⟩
  · exact .inl rfl

theorem leadsOn_wakeUp
    (now : Nat)
    (service : Service) :
    LeadsOn service.heavy (host.wakeUp now service).heavy := by
  unfold Timer.Host.wakeUp
  split
  · exact .refl service.heavy
  · exact Executor.Bench.leadsOn_performAll ..

theorem leadsOn_tick
    (remaining now : Nat)
    (service : Service) :
    LeadsOn service.heavy (host.tick remaining now service).heavy := by
  induction remaining generalizing now service with
  | zero =>
      exact .refl service.heavy
  | succ remaining inductionHypothesis =>
      exact (leadsOn_wakeUp (now + 1) service).trans (inductionHypothesis (now + 1) _)

theorem leadsOn_operate
    (service : Service)
    (operation : Operation) :
    LeadsOn service.heavy (service.operate operation).heavy := by
  cases operation with
  | schedule delay timer =>
      exact .refl service.heavy
  | arm handle alarm? =>
      exact .refl service.heavy
  | advance milliseconds =>
      unfold operate advance
      by_cases cancelled : service.isCancelled = true
      · simp only [if_pos cancelled]
        exact .refl service.heavy
      · simp only [if_neg cancelled, Timer.Host.advance_eq_tick]
        exact leadsOn_tick ..
  | endTimers =>
      exact .refl service.heavy
  | wakeUpLast =>
      unfold operate
      rcases service.wakeUpLast_cases with isSame | ⟨-, wakesUp⟩
      · simp only [isSame]
        exact .refl service.heavy
      · simp only [wakesUp]
        exact leadsOn_wakeUp ..
  | submit slotName work =>
      exact
        (Executor.Bench.leadsOn_perform service.heavy (.create slotName)).trans
          (Executor.Bench.leadsOn_put ..)
  | perform action =>
      exact Executor.Bench.leadsOn_perform service.heavy action
  | work =>
      unfold operate
      cases stepped : crew.step? service.heavy with
      | none =>
          exact .refl service.heavy
      | some next =>
          exact Executor.Bench.leadsOn_of_step? stepped
  | beginWork | settle =>
      exact Executor.Bench.leadsOn_settleUntil ..

theorem leadsOn_operateAll
    (service : Service)
    (operations : List Operation) :
    LeadsOn service.heavy (service.operateAll operations).heavy := by
  refine
    List.foldlRecOn (motive := fun later => LeadsOn service.heavy later.heavy) operations operate
      (.refl service.heavy) ?_
  intro between leads operation _
  exact leads.trans (leadsOn_operate between operation)

/-- In one wake-up at most one timer fires. -/
theorem fired_wakeUp
    (now : Nat)
    (service : Service) :
    (host.wakeUp now service).isCancelled = service.isCancelled ∧
      ((host.wakeUp now service).fired = service.fired ∨
        ∃ last, (host.wakeUp now service).fired = service.fired ++ [last]) := by
  unfold Timer.Host.wakeUp
  split
  · exact ⟨rfl, .inl rfl⟩
  · exact ⟨rfl, .inr ⟨_, rfl⟩⟩

/-- The task of the timers may wake up once after it was cancelled, but not after it has ended. -/
structure HasFired (fired : List (Nat × String)) (service : Service) : Prop where
  cancelled : service.isCancelled = true
  notYet : service.timersEnded = false → service.fired = fired
  atMostOnce : service.fired = fired ∨ ∃ last, service.fired = fired ++ [last]

theorem HasFired.operate
    {fired : List (Nat × String)}
    (hasFired : HasFired fired service)
    (operation : Operation) :
    HasFired fired (service.operate operation) := by
  obtain ⟨cancelled, notYet, atMostOnce⟩ := hasFired
  cases operation with
  | advance milliseconds =>
      unfold Service.operate advance
      simp only [if_pos cancelled]
      exact ⟨cancelled, notYet, atMostOnce⟩
  | endTimers =>
      refine ⟨cancelled, ?_, atMostOnce⟩
      intro notEnded
      cases cancelled.symm.trans notEnded
  | wakeUpLast =>
      unfold Service.operate
      rcases service.wakeUpLast_cases with isSame | ⟨notEnded, wakesUp⟩
      · simp only [isSame]
        exact ⟨cancelled, notYet, atMostOnce⟩
      · obtain ⟨sameCancelled, firesOnce⟩ := fired_wakeUp (service.now + 1) service
        rw [notYet notEnded] at firesOnce
        simp only [wakesUp]
        exact ⟨sameCancelled.trans cancelled, by rintro ⟨⟩, firesOnce⟩
  | _ =>
      exact ⟨cancelled, notYet, atMostOnce⟩

theorem HasFired.operateAll
    {fired : List (Nat × String)}
    (hasFired : HasFired fired service)
    (operations : List Operation) :
    HasFired fired (service.operateAll operations) :=
  List.foldlRecOn operations Service.operate hasFired
    fun _ hasFired operation _ => hasFired.operate operation

/-- Once the task of its timers has ended, a service fires no timer. -/
theorem fired_operateAll_of_timersEnded
    (cancelled : service.isCancelled = true)
    (ended : service.timersEnded = true)
    (operations : List Operation) :
    (service.operateAll operations).fired = service.fired := by
  have invariant :
      (service.operateAll operations).isCancelled = true ∧
        (service.operateAll operations).timersEnded = true ∧
          (service.operateAll operations).fired = service.fired := by
    refine
      List.foldlRecOn
        (motive := fun later =>
          later.isCancelled = true ∧ later.timersEnded = true ∧ later.fired = service.fired)
        operations operate ⟨cancelled, ended, rfl⟩ ?_
    rintro between ⟨stillCancelled, stillEnded, sameFired⟩ operation _
    cases operation with
    | advance milliseconds =>
        unfold operate advance
        simp only [if_pos stillCancelled]
        exact ⟨stillCancelled, stillEnded, sameFired⟩
    | endTimers =>
        exact ⟨stillCancelled, stillCancelled, sameFired⟩
    | wakeUpLast =>
        unfold operate
        rcases between.wakeUpLast_cases with isSame | ⟨notEnded, -⟩
        · simp only [isSame]
          exact ⟨stillCancelled, stillEnded, sameFired⟩
        · cases notEnded.symm.trans stillEnded
    | _ =>
        exact ⟨stillCancelled, stillEnded, sameFired⟩
  exact invariant.2.2

/-- Once its worker has exited, a service does no work. -/
theorem done_operateAll_of_exited
    (exited : service.heavy.executor.worker = .exited)
    (operations : List Operation) :
    (service.operateAll operations).heavy.done = service.heavy.done := by
  obtain ⟨moves, -, leads⟩ := leadsOn_operateAll service operations
  obtain ⟨-, -, endedNothing⟩ := Executor.exited_run exited moves
  rw [leads.done, endedNothing, List.append_nil]

/-- A stop succeeds where nothing is stuck. -/
theorem outcome_stuck_eq_ok_iff
    {grace : Nat}
    {joined : Service} :
    outcome grace (stuck joined stopped) = .ok () ↔
      joined.timersEnded = true ∧ stopped.heavy.executor.worker = .exited := by
  unfold stuck Executor.hasExited
  cases joined.timersEnded with
  | false =>
      simp [outcome]
  | true =>
      cases stopped.heavy.executor.worker <;> simp [outcome]

/-- An executor that was never told to stop does what is queued when it is told to. -/
theorem exists_drained_settle
    (leads : LeadsOn {} service.heavy) :
    ∃ before drain,
      Leads {} before service.heavy ∧
        Leads service.heavy drain service.stopExecutor.settle.heavy ∧
          Drained (before ++ drain) := by
  have isServing := leads.isServing
  obtain ⟨before, -, leads⟩ := leads
  have toldToStop : Leads service.heavy [.stop] service.heavy.requestStop :=
    ⟨rfl, (List.append_nil _).symm, (List.append_nil _).symm⟩
  obtain ⟨others, settles, drained⟩ :=
    Executor.Bench.exists_drained_settle (leads.trans toldToStop) rfl fun exited =>
      absurd exited isServing.notExited
  refine ⟨before, [.stop] ++ others, leads, toldToStop.trans settles, ?_⟩
  rw [← List.append_assoc]
  exact drained

theorem exited_settle
    (leads : LeadsOn {} service.heavy) :
    service.stopExecutor.settle.heavy.executor.worker = .exited := by
  obtain ⟨before, drain, leads, drains, drained⟩ := exists_drained_settle leads
  exact (congrArg Executor.worker (leads.trans drains).executor).trans drained.exited

/-- A stop succeeds if and only if the works end. -/
theorem shutdown_eq_ok_iff
    (leads : LeadsOn {} service.heavy)
    (worksEnd : Bool) :
    (service.shutdown worksEnd).1 = .ok () ↔ worksEnd = true := by
  refine outcome_stuck_eq_ok_iff.trans ?_
  cases worksEnd with
  | true =>
      exact ⟨fun _ => rfl, fun _ => ⟨rfl, exited_settle leads⟩⟩
  | false =>
      constructor
      · rintro ⟨-, exited⟩
        exact absurd exited leads.isServing.notExited
      · rintro ⟨⟩

/-- A service falls silent when it is shut down. -/
theorem isSilent_shutdown
    (leads : LeadsOn {} service.heavy) :
    IsSilent service (service.shutdown true).2 where
  drained := exists_drained_settle leads
  fired := rfl
  firesNoMore := fired_operateAll_of_timersEnded rfl rfl
  doesNoMore := done_operateAll_of_exited (exited_settle leads)

/-- Where the worker has exited in the end, all that was queued before was done. -/
theorem exists_drained_of_exited
    (leads : LeadsOn {} service.heavy)
    {moves : List (Move Executor.Work)}
    (onwards : Leads service.heavy moves stopped.heavy)
    (exited : stopped.heavy.executor.worker = .exited) :
    ∃ before drain later,
      Leads {} before service.heavy ∧
        Leads service.heavy (drain ++ later) stopped.heavy ∧ Drained (before ++ drain) := by
  have notYet := leads.isServing.notExited
  obtain ⟨before, -, leads⟩ := leads
  obtain ⟨earlier, last, later, rfl, stillNotYet, exits⟩ :=
    Executor.exists_exit_of_run notYet (onwards.executor ▸ exited)
  refine ⟨before, earlier ++ [last], later, leads, ?_, ?_⟩
  · rw [List.append_assoc]
    exact onwards
  · rw [leads.executor, ← Executor.run_append] at stillNotYet exits
    rw [← List.append_assoc] at exits ⊢
    exact Executor.drained_of_exits stillNotYet exits

/-- Others may go on while a service is stopped; it falls silent all the same. -/
theorem isOrderly_shutdownThrough
    (leads : LeadsOn {} service.heavy)
    (untilJoined untilStopped : List Operation)
    (succeeds : (service.shutdownThrough untilJoined (.ok ()) untilStopped).1 = .ok ()) :
    IsOrderly service (service.cancel.operateAll untilJoined)
      (service.shutdownThrough untilJoined (.ok ()) untilStopped).2 := by
  obtain ⟨ended, exited⟩ := outcome_stuck_eq_ok_iff.mp succeeds
  have cancelled : HasFired service.fired service.cancel := ⟨rfl, fun _ => rfl, .inl rfl⟩
  have hasFired := cancelled.operateAll untilJoined
  obtain ⟨untilTold, -, joins⟩ := leadsOn_operateAll service.cancel untilJoined
  let joined := service.cancel.operateAll untilJoined
  have toldToStop : Leads joined.heavy [.stop] joined.stopExecutor.heavy :=
    ⟨rfl, (List.append_nil _).symm, (List.append_nil _).symm⟩
  obtain ⟨untilExit, -, stops⟩ := leadsOn_operateAll joined.stopExecutor untilStopped
  constructor
  case drained =>
    exact exists_drained_of_exited leads ((joins.trans toldToStop).trans stops) exited
  case atMostOnce =>
    exact hasFired.atMostOnce
  case fired =>
    exact @fired_operateAll_of_timersEnded joined.stopExecutor hasFired.cancelled ended untilStopped
  case firesNoMore =>
    exact fired_operateAll_of_timersEnded hasFired.cancelled ended
  case doesNoMore =>
    exact done_operateAll_of_exited exited

/-- The stop comes in the middle of a work that goes on to queue two more works. -/
def stoppedMidway : Nat → Move String
  | 0 => .create "first"
  | 1 => .create "second"
  | 2 => .put 1 "begun"
  | 6 => .stop
  | 7 => .put 0 "behind"
  | 8 => .put 1 "again"
  | _ => .work

theorem stoppedMidway_of_le
    {count : Nat}
    (isLate : 9 ≤ count) :
    stoppedMidway count = .work := by
  obtain ⟨further, rfl⟩ := Nat.exists_eq_add_of_le' isLate
  rfl

/-- A timer queues a work on the slot whose work is being done, and another one never fires. -/
def debouncedMidway : List Operation :=
  [.submit "slow" ⟨some "slow", [.create "other", .set 1 "ahead" []]⟩,
    .beginWork,
    .schedule 5 ⟨"debounce", [.set 0 "queued" []]⟩,
    .schedule 30 ⟨"never", [.set 0 "lost" []]⟩,
    .advance 20]

/-- A timer that is set once the timers were cancelled fires before their task notices that. -/
def firesLate : List Operation :=
  [.arm 1 (some ⟨21, "late", [.set 0 "last" []]⟩), .wakeUpLast]

end Service

end RefreshRate
