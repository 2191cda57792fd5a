import Mathlib.Data.List.Induction
import RefreshRate.Proofs.Timer.LoopRun
import RefreshRate.Proofs.Timer.Operation

namespace RefreshRate.Timer

/-!
# A bench with a loop

The alarms of a bench are delivered by a loop, while others call: they perform actions and
stop the bench.  Operating a bench is what happens if the loop takes its turn
after each call and the clock waits for it.
-/

/-- Whether an alarm was replaced, which re-arms the loop. -/
def Reply.rearms : Reply → Bool
  | .done | .accepted =>
      true
  | .handle _ | .armed _ | .refused _ | .panicked _ =>
      false

namespace Bench

/-- A call from outside. -/
inductive Call where
  | perform (action : Action)
  | stop
  deriving Repr

/-- Answer a call. -/
def answer (call : Call) (bench : Bench) : Bench :=
  match call with
  | .perform action =>
      (bench.perform action).2
  | .stop =>
      bench.stop

/-- Whether a call re-arms the loop. -/
def answerRearms (call : Call) (bench : Bench) : Bool :=
  match call with
  | .perform action =>
      (bench.perform action).1.rearms
  | .stop =>
      false

/-- Whether a script re-arms the loop before one of its operations panics. -/
def scriptRearms
    (bench : Bench) :
    List Action → Bool
  | [] =>
      false
  | action :: rest =>
      match bench.perform action with
      | (.panicked _, _) =>
          false
      | (reply, bench) =>
          reply.rearms || bench.scriptRearms rest

theorem now_answer
    (call : Call)
    (bench : Bench) :
    (answer call bench).now = bench.now := by
  cases call with
  | perform action =>
      exact (performed_perform bench action).clock_eq.1
  | stop =>
      rfl

theorem isStopped_answer
    (call : Call)
    (bench : Bench)
    (isStopped : bench.isStopped = true) :
    (answer call bench).isStopped = true := by
  cases call with
  | perform action =>
      exact (performed_perform bench action).clock_eq.2.trans isStopped
  | stop =>
      rfl

/-- An operation that succeeds re-arms the loop, and one that fails leaves the table alone. -/
theorem table_put_of_not_rearms
    {bench : Bench}
    {handle : Nat}
    {alarm? : Option (Alarm Work)}
    {onSuccess : Reply}
    {onError : HandleError → Reply}
    (succeeds : onSuccess.rearms = true)
    (notRearmed : (bench.put handle alarm? onSuccess onError).1.rearms = false) :
    (bench.put handle alarm? onSuccess onError).2.table = bench.table := by
  rcases bench.put_cases handle alarm? onSuccess onError with ⟨known, putIs⟩ | ⟨-, putIs⟩
  · rw [putIs] at notRearmed
    cases succeeds.symm.trans notRearmed
  · rw [putIs]

/-- A sleeping slot at the end does not change what fires next. -/
theorem earliestSlot?_append_asleep
    (slots : List (Slot Work))
    (name : String) :
    earliestSlot? (slots ++ [⟨name, none⟩]) = earliestSlot? slots := by
  induction slots with
  | nil =>
      rfl
  | cons slot rest inductionHypothesis =>
      simp only [List.cons_append, earliestSlot?, inductionHypothesis]

theorem earliest?_answer
    (call : Call)
    (bench : Bench)
    (notRearmed : answerRearms call bench = false) :
    (answer call bench).table.earliest? = bench.table.earliest? := by
  cases call with
  | stop =>
      rfl
  | perform action =>
      cases action with
      | create name =>
          exact earliestSlot?_append_asleep bench.table.slots name
      | isArmed handle =>
          rfl
      | panic message =>
          rfl
      | set | clear | schedule | trySet | tryClear =>
          exact congrArg Table.earliest? (table_put_of_not_rearms rfl notRearmed)

/-- The bench with its loop. -/
def loopHost : LoopHost Bench Work Call where
  toHost := host
  now := Bench.now
  withNow bench now := { bench with now }
  isStopped := Bench.isStopped
  call := answer
  callRearms := answerRearms
  workRearms now firing bench :=
    ({ bench with now }.record (.fired now firing)).scriptRearms firing.alarm.work.script
  table_withNow _ _ := rfl
  now_withNow _ _ := rfl
  isStopped_withNow _ _ := rfl
  now_call := now_answer
  isStopped_call := isStopped_answer
  earliest?_call := earliest?_answer

end Bench

namespace Operation

/-- An operation in a run in which the loop comes first. -/
def loopSteps : Operation → List (LoopStep Bench.Call)
  | .perform action =>
      [.call (.perform action), .turn]
  | .advance milliseconds =>
      (List.replicate milliseconds [.elapse, .turn, .turn]).flatten
  | .stop =>
      [.call .stop, .turn]

end Operation

namespace Bench

theorem withNow_eq
    {bench : Bench}
    {now : Nat}
    (clock : bench.now = now) :
    { bench with now } = bench := by
  subst clock
  rfl

/-- A work sets the clock that it finds. -/
theorem wakeUp_withNow
    (bench : Bench)
    (now : Nat) :
    host.wakeUp now { bench with now } = { host.wakeUp now bench with now } := by
  cases taken : bench.table.takeDue? now with
  | none =>
      have sameTaken : (host.table { bench with now }).takeDue? now = none := taken
      rw [host.wakeUp_of_takeDue?_eq_none sameTaken, host.wakeUp_of_takeDue?_eq_none taken]
  | some both =>
      obtain ⟨firing, rest⟩ := both
      have sameTaken : (host.table { bench with now }).takeDue? now = some (firing, rest) := taken
      rw [host.wakeUp_of_takeDue?_eq_some sameTaken, host.wakeUp_of_takeDue?_eq_some taken]
      exact (withNow_eq (clock_run now firing _).1).symm

theorem iterate_pace_of_isStopped
    {bench : Bench}
    (stopped : bench.isStopped = true)
    (milliseconds now : Nat) :
    loopHost.pace^[milliseconds] { bench with now } =
      { bench with now := now + milliseconds } := by
  induction milliseconds generalizing now with
  | zero =>
      rfl
  | succ milliseconds inductionHypothesis =>
      have isStopped : loopHost.isStopped { bench with now } = true := stopped
      have paced : loopHost.pace { bench with now } = { bench with now := now + 1 } := by
        simp only [LoopHost.pace, isStopped, if_true]
        rfl
      rw [Function.iterate_succ_apply, paced, inductionHypothesis, Nat.add_assoc,
        Nat.add_comm 1 milliseconds]

theorem iterate_pace_of_running
    {bench : Bench}
    (running : bench.isStopped = false)
    (milliseconds now : Nat) :
    loopHost.pace^[milliseconds] { bench with now } =
      { host.tick milliseconds now bench with now := now + milliseconds } := by
  induction milliseconds generalizing bench now with
  | zero =>
      rfl
  | succ milliseconds inductionHypothesis =>
      have isRunning : loopHost.isStopped { bench with now } = false := running
      have paced :
          loopHost.pace { bench with now } =
            { host.wakeUp (now + 1) bench with now := now + 1 } := by
        simp only [LoopHost.pace, isRunning, Bool.false_eq_true, if_false]
        exact wakeUp_withNow bench (now + 1)
      have stillRunning := (isStopped_wakeUp (now + 1) bench).trans running
      rw [Function.iterate_succ_apply, paced, inductionHypothesis stillRunning, Nat.add_assoc,
        Nat.add_comm 1 milliseconds]
      rfl

/-- Milliseconds in which the loop comes first are what is meant by letting time pass. -/
theorem iterate_pace
    (bench : Bench)
    (milliseconds : Nat) :
    loopHost.pace^[milliseconds] bench = bench.advance milliseconds := by
  simp only [advance]
  by_cases stopped : bench.isStopped = true
  · rw [if_pos stopped]
    exact iterate_pace_of_isStopped stopped milliseconds bench.now
  · rw [if_neg stopped, Host.advance_eq_tick, Nat.add_sub_cancel_left]
    exact iterate_pace_of_running (eq_false_of_ne_true stopped) milliseconds bench.now

/-- To operate a bench is to call it in an order in which its loop comes first. -/
theorem leads_operateAll
    (operations : List Operation) :
    LoopHost.Leads loopHost (loopHost.begin {}) (operations.flatMap Operation.loopSteps)
      (({} : Bench).operateAll operations) := by
  induction operations using List.reverseRecOn with
  | nil =>
      exact .begin _
  | append_singleton operations operation inductionHypothesis =>
      rw [List.flatMap_append, List.flatMap_singleton, operateAll, List.foldl_append, ← operateAll]
      cases operation with
      | perform action =>
          exact inductionHypothesis.call (.perform action)
      | advance milliseconds =>
          have paced := inductionHypothesis.paces milliseconds
          rwa [iterate_pace] at paced
      | stop =>
          exact inductionHypothesis.call .stop

end Bench

end RefreshRate.Timer
