import RefreshRate.Executor.Crew

namespace RefreshRate.Executor

/-!
# Scripted works

Works are described by data: a script lists the operations that a work performs
on the executor while it is done.  A bench holds an executor of such works and
records what has been done.  Scripts are finite trees, so the worker always
comes to rest.
-/

/-- One operation on the executor; a work is given by its name and its script. -/
inductive Action where
  | create (name : String)
  | set (handle : Nat) (work : String) (script : List Action)
  | trySet (handle : Nat) (work : String) (script : List Action)
  | panic (message : String)
  deriving Repr

mutual

/-- The weight of the work that an operation may queue. -/
def Action.weight : Action → Nat
  | .create _ => 0
  | .set _ _ script => 1 + Action.scriptWeight script
  | .trySet _ _ script => 1 + Action.scriptWeight script
  | .panic _ => 0

/-- The weight of all works that a script may queue. -/
def Action.scriptWeight : List Action → Nat
  | [] => 0
  | action :: rest => action.weight + Action.scriptWeight rest

end

/-- A work with the operations that it performs; a work without a name is not recorded. -/
structure Work where
  name? : Option String
  script : List Action
  deriving Repr

namespace Work

/-- A work that keeps the worker busy and does nothing else. -/
def hold : Work :=
  ⟨none, []⟩

/-- The weight of a work exceeds that of the works that it may queue. -/
def weight (work : Work) : Nat :=
  1 + Action.scriptWeight work.script

end Work

/-- What an operation answers. -/
inductive Reply where
  | done
  | handle (index : Nat)
  | accepted
  | refused (reason : HandleError)
  | panicked (message : String)
  deriving Repr, DecidableEq

/-- What happens on a bench. -/
inductive Event where
  /-- A work was queued on a slot. -/
  | queued (handle : Nat) (work : Work)
  /-- The work of a slot was begun. -/
  | begun (handle : Nat) (work : Work)
  /-- The work of a slot panicked. -/
  | panicked (slotName : String)
  deriving Repr

namespace Event

/-- The name of a work that was begun. -/
def ran? : Event → Option String
  | .begun _ work => work.name?
  | _ => none

/-- The slot of which the work panicked. -/
def panickedSlot? : Event → Option String
  | .panicked slotName => some slotName
  | _ => none

end Event

/-- An executor of scripted works and the record of what has happened. -/
structure Bench where
  executor : Executor Work := {}
  /-- All events, the oldest first. -/
  history : List Event := []
  deriving Repr

namespace Bench

/-- The names of the works that have been done. -/
def ran (bench : Bench) : List String :=
  bench.history.filterMap Event.ran?

/-- The slots of which the works have panicked. -/
def panickedSlots (bench : Bench) : List String :=
  bench.history.filterMap Event.panickedSlot?

/-- Record an event. -/
def record
    (bench : Bench)
    (event : Event) :
    Bench :=
  { bench with history := bench.history ++ [event] }

/-- Queue a work on a slot. -/
def enqueue
    (bench : Bench)
    (handle : Nat)
    (work : Work) :
    Except HandleError Bench :=
  (bench.executor.put handle work).map fun executor =>
    { bench with executor }.record (.queued handle work)

/-- Queue a work; an unknown handle is answered by `onError`. -/
def put
    (bench : Bench)
    (handle : Nat)
    (work : Work)
    (onSuccess : Reply)
    (onError : HandleError → Reply) :
    Reply × Bench :=
  match bench.enqueue handle work with
  | .ok next =>
      (onSuccess, next)
  | .error reason =>
      (onError reason, bench)

/-- The answer to an unknown handle of an operation that must not fail. -/
def panicReply (reason : HandleError) : Reply :=
  .panicked reason.message

/-- Perform one operation. -/
def perform (bench : Bench) : Action → Reply × Bench
  | .create name =>
      let (handle, executor) := bench.executor.create name
      (.handle handle, { bench with executor })
  | .set handle work script =>
      bench.put handle ⟨some work, script⟩ .done panicReply
  | .trySet handle work script =>
      bench.put handle ⟨some work, script⟩ .accepted .refused
  | .panic message =>
      (.panicked message, bench)

/-- Perform operations until one of them panics; tell whether one did. -/
def performAll
    (bench : Bench) :
    List Action → Bool × Bench
  | [] =>
      (false, bench)
  | action :: rest =>
      match bench.perform action with
      | (.panicked _, bench) =>
          (true, bench)
      | (_, bench) =>
          bench.performAll rest

/-- Perform operations one after the other and collect their answers. -/
def performEach
    (bench : Bench) :
    List Action → List Reply × Bench
  | [] =>
      ([], bench)
  | action :: rest =>
      let (reply, bench) := bench.perform action
      let (replies, bench) := bench.performEach rest
      (reply :: replies, bench)

/-- Do a work: record it and perform its script.  A panic ends the script and is recorded. -/
def run
    (handle : Nat)
    (slotName : String)
    (work : Work)
    (bench : Bench) :
    Bench :=
  let (hasPanicked, done) := (bench.record (.begun handle work)).performAll work.script
  if hasPanicked then done.record (.panicked slotName) else done

/-- Replacing the work of a slot adds at most the weight of the new work. -/
theorem queuedWeight_modify_some_le
    (slots : List (Slot Work))
    (handle : Nat)
    (work : Work) :
    queuedWeight Work.weight
        (slots.modify handle fun slot => { slot with work? := some work }) ≤
      queuedWeight Work.weight slots + work.weight := by
  induction slots generalizing handle with
  | nil =>
      simp [queuedWeight]
  | cons head rest inductionHypothesis =>
      cases handle with
      | zero =>
          simp only [queuedWeight, List.modify_zero_cons, Option.elim_some]
          omega
      | succ handle =>
          have rest_le := inductionHypothesis handle
          simp only [queuedWeight, List.modify_succ_cons]
          omega

/-- An empty slot at the end adds no weight. -/
theorem queuedWeight_append_empty
    (slots : List (Slot Work))
    (name : String) :
    queuedWeight Work.weight (slots ++ [⟨name, none⟩]) = queuedWeight Work.weight slots := by
  induction slots with
  | nil =>
      rfl
  | cons head rest inductionHypothesis =>
      simp only [List.cons_append, queuedWeight, inductionHypothesis]

/-- Queueing a work adds at most its weight. -/
theorem queuedWeight_put_le
    (bench : Bench)
    (handle : Nat)
    (work : Work)
    (onSuccess : Reply)
    (onError : HandleError → Reply) :
    queuedWeight Work.weight (bench.put handle work onSuccess onError).2.executor.slots ≤
      queuedWeight Work.weight bench.executor.slots + work.weight := by
  unfold put enqueue Executor.put
  split
  · rename_i next accepted
    split at accepted
    · cases accepted
      exact queuedWeight_modify_some_le _ _ _
    · cases accepted
  · exact Nat.le_add_right _ _

/-- An operation adds at most its weight to what is queued. -/
theorem queuedWeight_perform_le
    (bench : Bench)
    (action : Action) :
    queuedWeight Work.weight (bench.perform action).2.executor.slots ≤
      queuedWeight Work.weight bench.executor.slots + action.weight := by
  cases action with
  | create name =>
      exact Nat.le_of_eq (queuedWeight_append_empty bench.executor.slots name)
  | set handle work script =>
      exact queuedWeight_put_le bench handle ⟨some work, script⟩ .done panicReply
  | trySet handle work script =>
      exact queuedWeight_put_le bench handle ⟨some work, script⟩ .accepted .refused
  | panic message =>
      exact Nat.le_add_right _ _

/-- A script adds at most its weight to what is queued. -/
theorem queuedWeight_performAll_le
    (bench : Bench)
    (script : List Action) :
    queuedWeight Work.weight (bench.performAll script).2.executor.slots ≤
      queuedWeight Work.weight bench.executor.slots + Action.scriptWeight script := by
  induction script generalizing bench with
  | nil =>
      exact Nat.le_add_right _ _
  | cons action rest inductionHypothesis =>
      have first := queuedWeight_perform_le bench action
      simp only [performAll, Action.scriptWeight]
      split
      · rename_i message after performed
        rw [performed] at first
        simp only at first ⊢
        omega
      · rename_i reply after _ performed
        rw [performed] at first
        have others := inductionHypothesis after
        simp only at first
        omega

/-- A work queues less than its own weight. -/
theorem queuedWeight_run_lt
    (handle : Nat)
    (slotName : String)
    (work : Work)
    (bench : Bench) :
    queuedWeight Work.weight (run handle slotName work bench).executor.slots <
      queuedWeight Work.weight bench.executor.slots + work.weight := by
  have scriptLight :=
    queuedWeight_performAll_le (bench.record (.begun handle work)) work.script
  simp only [run, Work.weight]
  split <;> simp only [record] at scriptLight ⊢ <;> omega

/-- The bench as the crew of its executor. -/
def crew : Crew Bench Work where
  executor := Bench.executor
  withExecutor bench executor := { bench with executor }
  run := run
  weight := Work.weight
  executor_withExecutor _ _ := rfl
  queuedWeight_run_lt := queuedWeight_run_lt

/-- Let the worker go on until it has nothing to do. -/
def settle (bench : Bench) : Bench :=
  crew.settle bench

/-- Ask the worker to stop. -/
def requestStop (bench : Bench) : Bench :=
  { bench with executor := bench.executor.stop }

/-- Do all that is queued and stop the worker for good. -/
def shutdown (bench : Bench) : Bench :=
  bench.requestStop.settle

/--
Perform operations while the worker is held by a work on a given slot, then let
the worker go.  The worker may be asked to stop while it is held.
-/
def batch
    (bench : Bench)
    (blocker : Nat)
    (actions : List Action)
    (stops : Bool) :
    Except HandleError (List Reply × Bench) :=
  match bench.enqueue blocker .hold with
  | .error reason =>
      .error reason
  | .ok queued =>
      let held := crew.settleUntil (fun bench => bench.executor.isRunning) queued
      let (replies, filled) := held.performEach actions
      let released := if stops then filled.requestStop else filled
      .ok (replies, released.settle)

end Bench

end RefreshRate.Executor
