import RefreshRate.Proofs.Timer.Operation

namespace RefreshRate.Timer

/-!
# A panic ends a work and nothing else

What happens on a bench depends on its clock, its table and whether it is stopped, but
not on its record.  A work that panics has performed the actions before the panic, and
leaves the bench as a work would that consists of just these actions.  From there on
the same things happen.
-/

/-- The same firing of a work with another script. -/
def Firing.withScript
    (firing : Firing Work)
    (script : List Action) :
    Firing Work :=
  { firing with alarm.work.script := script }

namespace Bench

variable {bench first second : Bench}

/-- A bench on which some events have happened before. -/
def after
    (past : List Event)
    (bench : Bench) :
    Bench :=
  { bench with history := past ++ bench.history }

section After

variable (past : List Event) (bench : Bench)

theorem record_after
    (event : Event) :
    (bench.after past).record event = (bench.record event).after past := by
  simp [record, after]

theorem put_after
    (handle : Nat)
    (alarm? : Option (Alarm Work))
    (onSuccess : Reply)
    (onError : HandleError → Reply) :
    (bench.after past).put handle alarm? onSuccess onError =
      ((bench.put handle alarm? onSuccess onError).1,
        (bench.put handle alarm? onSuccess onError).2.after past) := by
  have sameTable : (bench.after past).table = bench.table := rfl
  unfold put
  rw [sameTable]
  split
  · simp [record, after]
  · rfl

theorem perform_after
    (action : Action) :
    (bench.after past).perform action =
      ((bench.perform action).1, (bench.perform action).2.after past) := by
  cases action with
  | create name =>
      rfl
  | isArmed handle =>
      rfl
  | set handle deadline work script =>
      exact put_after ..
  | clear handle =>
      exact put_after ..
  | schedule handle delay work script =>
      exact put_after ..
  | trySet handle deadline work script =>
      exact put_after ..
  | tryClear handle =>
      exact put_after ..
  | panic message =>
      rfl

theorem performAll_after
    (script : List Action) :
    (bench.after past).performAll script =
      ((bench.performAll script).1, (bench.performAll script).2.after past) := by
  induction script generalizing bench with
  | nil =>
      rfl
  | cons action rest inductionHypothesis =>
      simp only [performAll, perform_after]
      rcases bench.perform action with ⟨reply, next⟩
      cases reply with
      | panicked message =>
          rfl
      | _ =>
          exact inductionHypothesis next

theorem run_after
    (now : Nat)
    (firing : Firing Work) :
    (bench.after past).run now firing = (bench.run now firing).after past := by
  have begun :
      ({ bench.after past with now }).record (.fired now firing) =
        ({ bench with now }.record (.fired now firing)).after past :=
    record_after past { bench with now } (.fired now firing)
  simp only [run, begun, performAll_after]
  split
  · exact record_after ..
  · rfl

theorem wakeUp_after
    (now : Nat) :
    host.wakeUp now (bench.after past) = (host.wakeUp now bench).after past := by
  have sameTable : host.table (bench.after past) = host.table bench := rfl
  unfold Host.wakeUp
  rw [sameTable]
  split
  · rfl
  · rename_i firing rest taken
    exact run_after past { bench with table := rest } now firing

theorem tick_after
    (remaining now : Nat) :
    host.tick remaining now (bench.after past) = (host.tick remaining now bench).after past := by
  induction remaining generalizing now bench with
  | zero =>
      rfl
  | succ remaining inductionHypothesis =>
      simp only [Host.tick, wakeUp_after]
      exact inductionHypothesis _ (now + 1)

theorem operate_after
    (operation : Operation) :
    (bench.after past).operate operation = (bench.operate operation).after past := by
  cases operation with
  | perform action =>
      exact congrArg Prod.snd (perform_after past bench action)
  | advance milliseconds =>
      have sameClock : (bench.after past).now = bench.now := rfl
      have sameStopped : (bench.after past).isStopped = bench.isStopped := rfl
      simp only [operate, advance, Host.advance_eq_tick, sameClock, sameStopped, tick_after]
      split
      · rfl
      · rfl
  | stop =>
      rfl

/-- What happens on a bench does not depend on what has happened before. -/
theorem operateAll_after
    (operations : List Operation) :
    (bench.after past).operateAll operations = (bench.operateAll operations).after past := by
  induction operations generalizing bench with
  | nil =>
      rfl
  | cons operation rest inductionHypothesis =>
      simp only [operateAll, List.foldl_cons, operate_after]
      exact inductionHypothesis _

end After

/-- The bench without its record. -/
def unrecorded (bench : Bench) : Bench :=
  { bench with history := [] }

/-- From here on the same things happen on both benches. -/
def SameFuture (first second : Bench) : Prop :=
  ∀ operations,
    ∃ events,
      (first.operateAll operations).history = first.history ++ events ∧
        (second.operateAll operations).history = second.history ++ events ∧
          (first.operateAll operations).table = (second.operateAll operations).table

theorem sameFuture_of_unrecorded_eq
    (same : first.unrecorded = second.unrecorded) :
    SameFuture first second := by
  intro operations
  have remembered (bench : Bench) :
      bench.operateAll operations =
        (bench.unrecorded.operateAll operations).after bench.history := by
    rw [← operateAll_after]
    simp [unrecorded, after]
  refine ⟨(first.unrecorded.operateAll operations).history, ?_, ?_, ?_⟩
  · rw [remembered first]
    rfl
  · rw [remembered second, ← same]
    rfl
  · rw [remembered first, remembered second, same]
    rfl

/-- An action that panics has done nothing. -/
theorem perform_eq_of_panicked
    {action : Action}
    {message : String}
    (panicked : (bench.perform action).1 = .panicked message) :
    (bench.perform action).2 = bench := by
  have put
      {handle : Nat}
      {alarm? : Option (Alarm Work)}
      {onSuccess : Reply}
      {onError : HandleError → Reply}
      (notOnSuccess : onSuccess ≠ .panicked message)
      (panicked : (bench.put handle alarm? onSuccess onError).1 = .panicked message) :
      (bench.put handle alarm? onSuccess onError).2 = bench := by
    unfold Bench.put at panicked ⊢
    split at panicked
    · exact absurd panicked notOnSuccess
    · rfl
  cases action with
  | create name =>
      cases panicked
  | isArmed handle =>
      rfl
  | set handle deadline work script =>
      exact put (by rintro ⟨⟩) panicked
  | clear handle =>
      exact put (by rintro ⟨⟩) panicked
  | schedule handle delay work script =>
      exact put (by rintro ⟨⟩) panicked
  | trySet handle deadline work script =>
      exact put (by rintro ⟨⟩) panicked
  | tryClear handle =>
      exact put (by rintro ⟨⟩) panicked
  | panic message =>
      rfl

/-- A script that panics has been performed up to the action that panics. -/
theorem exists_performAll_eq_of_panics
    {script : List Action}
    (panics : (bench.performAll script).1 = true) :
    ∃ done action rest message,
      script = done ++ action :: rest ∧
        bench.performAll done = (false, (bench.performAll script).2) ∧
          ((bench.performAll done).2.perform action).1 = .panicked message := by
  induction script generalizing bench with
  | nil =>
      cases panics
  | cons action rest inductionHypothesis =>
      cases replied : (bench.perform action).1 with
      | panicked message =>
          have unchanged := perform_eq_of_panicked replied
          have performed : bench.perform action = (.panicked message, bench) :=
            Prod.ext replied unchanged
          refine ⟨[], action, rest, message, rfl, ?_, replied⟩
          simp only [performAll, performed]
      | _ =>
          have performed : bench.perform action = (_, (bench.perform action).2) :=
            Prod.ext replied rfl
          have goesOn (script : List Action) :
              bench.performAll (action :: script) =
                (bench.perform action).2.performAll script := by
            rw [performAll, performed]
          rw [goesOn] at panics
          obtain ⟨done, last, after, message, rfl, same, panicked⟩ := inductionHypothesis panics
          refine ⟨action :: done, last, after, message, rfl, ?_, ?_⟩
          · rw [goesOn, goesOn]
            exact same
          · rw [goesOn]
            exact panicked

/-- The bench on which the script of a work is performed. -/
def begin
    (bench : Bench)
    (now : Nat)
    (firing : Firing Work) :
    Bench :=
  { bench with now }.record (.fired now firing)

/-- Whether a work panics that is begun now. -/
def panics
    (bench : Bench)
    (now : Nat)
    (firing : Firing Work) :
    Bool :=
  ((bench.begin now firing).performAll firing.alarm.work.script).1

/--
A work panics when it has performed some of its actions.  It leaves the bench as a work
does that consists of just these actions, apart from the report, and from there on the
same things happen.
-/
structure PanicsAfter
    (bench : Bench)
    (now : Nat)
    (firing : Firing Work)
    (done : List Action)
    (events : List Event) :
    Prop where
  panics :
    ∃ action rest message,
      firing.alarm.work.script = done ++ action :: rest ∧
        (((bench.begin now firing).performAll done).2.perform action).1 = .panicked message
  history :
    (bench.run now firing).history =
      bench.history ++ .fired now firing :: events ++ [.panicked firing.slotName]
  shortHistory :
    (bench.run now (firing.withScript done)).history =
      bench.history ++ .fired now (firing.withScript done) :: events
  sameFuture : SameFuture (bench.run now firing) (bench.run now (firing.withScript done))

theorem exists_panicsAfter
    {now : Nat}
    {firing : Firing Work}
    (panics : bench.panics now firing = true) :
    ∃ done events, PanicsAfter bench now firing done events := by
  have begunIs (firing : Firing Work) :
      bench.begin now firing =
        ({ bench with now }).unrecorded.after (bench.history ++ [Event.fired now firing]) := by
    simp [begin, record, unrecorded, after]
  have runIs (firing : Firing Work) :
      bench.run now firing =
        if ((bench.begin now firing).performAll firing.alarm.work.script).1 then
          ((bench.begin now firing).performAll firing.alarm.work.script).2.record
            (.panicked firing.slotName)
        else
          ((bench.begin now firing).performAll firing.alarm.work.script).2 :=
    rfl
  rw [Bench.panics, begunIs, performAll_after] at panics
  obtain ⟨done, action, rest, message, split, performed, panicked⟩ :=
    exists_performAll_eq_of_panics panics
  have ran := runIs firing
  have ranShort := runIs (firing.withScript done)
  have shortScript : (firing.withScript done).alarm.work.script = done := rfl
  rw [begunIs, performAll_after, if_pos panics] at ran
  rw [begunIs, performAll_after, shortScript, performed, if_neg Bool.false_ne_true] at ranShort
  refine
    ⟨done, (({ bench with now }).unrecorded.performAll firing.alarm.work.script).2.history,
      ⟨action, rest, message, split, ?_⟩, ?_, ?_, ?_⟩
  · rw [begunIs, performAll_after, perform_after]
    exact panicked
  · rw [ran]
    simp [record, after]
  · rw [ranShort]
    simp [after]
  · apply sameFuture_of_unrecorded_eq
    rw [ran, ranShort]
    rfl

end Bench

end RefreshRate.Timer
