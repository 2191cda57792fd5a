import RefreshRate.Bus.Registry

namespace RefreshRate.Bus

/-!
# Scripted subscribers

Subscribers are described by data: on its first deliveries a subscriber performs
the operations of a script, which may subscribe, publish and panic in turn.
What is left to do forms an agenda, of which the first task is done first; what
a task gives rise to comes before what was left, so a nested delivery is
complete before the enclosing one goes on.  A panic drops the agenda.
-/

/-- One operation on the bus. -/
inductive Action where
  | subscribe (topic : Topic) (name : String) (times : Nat) (script : List Action)
  | publish (signal : Signal)
  | hasSubscriber (topic : Topic)
  | panic (message : String)
  deriving Repr

mutual

/-- A bound on the deliveries and operations that an operation may give rise to. -/
def Action.weight : Action → Nat
  | .subscribe _ _ times script => 1 + times * (1 + Action.scriptWeight script)
  | .publish _ => 1
  | .hasSubscriber _ => 0
  | .panic _ => 0

/-- The weight of all operations of a script. -/
def Action.scriptWeight : List Action → Nat
  | [] => 0
  | action :: rest => action.weight + Action.scriptWeight rest

end

/-- A subscriber and how often it will still perform its script. -/
structure Callback where
  name : String
  remaining : Nat
  script : List Action
  deriving Repr

/-- The weight of what a callback may still do. -/
def Callback.weight (callback : Callback) : Nat :=
  callback.remaining * (1 + Action.scriptWeight callback.script)

/-- The weight of what several callbacks may still do. -/
def callbacksWeight : List Callback → Nat
  | [] => 0
  | callback :: rest => callback.weight + callbacksWeight rest

/-- Something that is left to do. -/
inductive Task where
  | deliver (callback : Nat) (signal : Signal)
  | perform (action : Action)
  deriving Repr

/-- Deliveries weigh nothing, they are only counted. -/
def Task.weight : Task → Nat
  | .deliver _ _ => 0
  | .perform action => action.weight

/-- The weight of all tasks of an agenda. -/
def agendaWeight : List Task → Nat
  | [] => 0
  | task :: rest => task.weight + agendaWeight rest

/-- A bus of callbacks, known by their numbers, and the record of deliveries. -/
structure Bench where
  bus : Bus Nat := {}
  callbacks : List Callback := []
  /-- The name of the subscriber and the signal of every delivery. -/
  delivered : List (String × Signal) := []
  deriving Repr

namespace Bench

/-- The weight of what all callbacks may still do. -/
def weight (bench : Bench) : Nat :=
  callbacksWeight bench.callbacks

/-- Perform one operation; the tasks that it gives rise to are answered. -/
def perform (bench : Bench) : Action → Except String (List Task × Bench)
  | .subscribe topic name times script =>
      .ok
        ([],
          { bench with
            bus := bench.bus.subscribe topic bench.callbacks.length
            callbacks := bench.callbacks ++ [⟨name, times, script⟩] })
  | .publish signal =>
      .ok ((bench.bus.subscribers signal.topic).map fun id => .deliver id signal, bench)
  | .hasSubscriber _ =>
      .ok ([], bench)
  | .panic message =>
      .error message

/-- Use up one performance of a callback's script. -/
def spend (callback : Callback) : Callback :=
  { callback with remaining := callback.remaining - 1 }

/-- Deliver a signal to a callback; the tasks of its script are answered. -/
def deliver
    (bench : Bench)
    (id : Nat)
    (signal : Signal) :
    List Task × Bench :=
  match bench.callbacks[id]? with
  | none =>
      ([], bench)
  | some callback =>
      let recorded :=
        { bench with delivered := bench.delivered ++ [(callback.name, signal)] }
      if callback.remaining = 0 then
        ([], recorded)
      else
        (callback.script.map .perform,
          { recorded with callbacks := bench.callbacks.modify id spend })

/-- Do one task; a panic ends with its message. -/
def step
    (bench : Bench) :
    Task → Except String (List Task × Bench)
  | .deliver id signal =>
      .ok (bench.deliver id signal)
  | .perform action =>
      bench.perform action

theorem agendaWeight_append
    (first second : List Task) :
    agendaWeight (first ++ second) = agendaWeight first + agendaWeight second := by
  induction first with
  | nil =>
      exact (Nat.zero_add _).symm
  | cons task rest inductionHypothesis =>
      simp only [List.cons_append, agendaWeight, inductionHypothesis, Nat.add_assoc]

theorem agendaWeight_map_perform (script : List Action) :
    agendaWeight (script.map .perform) = Action.scriptWeight script := by
  induction script with
  | nil =>
      rfl
  | cons action rest inductionHypothesis =>
      simp only [List.map_cons, agendaWeight, Action.scriptWeight, inductionHypothesis,
        Task.weight]

theorem agendaWeight_map_deliver
    (ids : List Nat)
    (signal : Signal) :
    agendaWeight (ids.map fun id => .deliver id signal) = 0 := by
  induction ids with
  | nil =>
      rfl
  | cons id rest inductionHypothesis =>
      simp only [List.map_cons, agendaWeight, inductionHypothesis, Task.weight]

theorem callbacksWeight_append
    (first second : List Callback) :
    callbacksWeight (first ++ second) = callbacksWeight first + callbacksWeight second := by
  induction first with
  | nil =>
      exact (Nat.zero_add _).symm
  | cons callback rest inductionHypothesis =>
      simp only [List.cons_append, callbacksWeight, inductionHypothesis, Nat.add_assoc]

/-- One performance of a script costs its weight and one more. -/
theorem callbacksWeight_modify_spend
    {callbacks : List Callback}
    {id : Nat}
    {callback : Callback}
    (present : callbacks[id]? = some callback)
    (notSpent : callback.remaining ≠ 0) :
    callbacksWeight (callbacks.modify id spend) +
        (1 + Action.scriptWeight callback.script) =
      callbacksWeight callbacks := by
  induction callbacks generalizing id with
  | nil =>
      simp at present
  | cons head rest inductionHypothesis =>
      cases id with
      | zero =>
          simp only [List.getElem?_cons_zero, Option.some.injEq] at present
          subst present
          obtain ⟨remaining, remaining_eq⟩ := Nat.exists_eq_succ_of_ne_zero notSpent
          simp only [List.modify_zero_cons, callbacksWeight, Callback.weight, spend,
            remaining_eq, Nat.succ_sub_one, Nat.succ_mul]
          omega
      | succ id =>
          simp only [List.getElem?_cons_succ] at present
          have rest_eq := inductionHypothesis present
          simp only [List.modify_succ_cons, callbacksWeight]
          omega

/-- Every task lowers the weight, or keeps it and gives rise to no other task. -/
theorem weight_step
    {bench next : Bench}
    {task : Task}
    {tasks : List Task}
    (stepped : bench.step task = .ok (tasks, next)) :
    next.weight + agendaWeight tasks < bench.weight + task.weight ∨
      (next.weight = bench.weight ∧ tasks = []) := by
  cases task with
  | deliver id signal =>
      simp only [step, Except.ok.injEq, deliver] at stepped
      split at stepped
      · cases stepped
        exact .inr ⟨rfl, rfl⟩
      · rename_i callback present
        split at stepped
        · cases stepped
          exact .inr ⟨rfl, rfl⟩
        · rename_i notSpent
          cases stepped
          have cost := callbacksWeight_modify_spend present notSpent
          simp only [weight, agendaWeight_map_perform]
          omega
  | perform action =>
      cases action with
      | subscribe topic name times script =>
          simp only [step, perform, Except.ok.injEq, Prod.mk.injEq] at stepped
          obtain ⟨rfl, rfl⟩ := stepped
          simp only [weight, callbacksWeight_append, callbacksWeight, agendaWeight, Task.weight,
            Action.weight, Callback.weight]
          omega
      | publish signal =>
          simp only [step, perform, Except.ok.injEq, Prod.mk.injEq] at stepped
          obtain ⟨rfl, rfl⟩ := stepped
          simp only [agendaWeight_map_deliver, Task.weight, Action.weight]
          omega
      | hasSubscriber topic =>
          simp only [step, perform, Except.ok.injEq, Prod.mk.injEq] at stepped
          obtain ⟨rfl, rfl⟩ := stepped
          exact .inr ⟨rfl, rfl⟩
      | panic message =>
          cases stepped

/-- Do the tasks of an agenda in order; a panic ends with its message. -/
def run
    (bench : Bench) :
    List Task → Option String × Bench
  | [] =>
      (none, bench)
  | task :: rest =>
      match _stepped : bench.step task with
      | .error message =>
          (some message, bench)
      | .ok (tasks, next) =>
          next.run (tasks ++ rest)
termination_by agenda => (bench.weight + agendaWeight agenda, agenda.length)
decreasing_by
  rcases weight_step _stepped with lighter | ⟨same, rfl⟩
  · refine .left _ _ ?_
    simp only [agendaWeight_append, agendaWeight]
    omega
  · simp only [List.nil_append, agendaWeight, same, List.length_cons]
    by_cases weightless : task.weight = 0
    · rw [weightless, Nat.zero_add]
      exact .right _ (Nat.lt_succ_self _)
    · exact .left _ _ (by omega)

/-- Perform an operation and all that it gives rise to; a panic ends with its message. -/
def act
    (bench : Bench)
    (action : Action) :
    Option String × Bench :=
  bench.run [.perform action]

end Bench

end RefreshRate.Bus
