import Mathlib.Logic.Relation
import RefreshRate.Proofs.Timer.Tick
import RefreshRate.Timer.Bench

namespace RefreshRate.Timer

/-!
# What happens on a bench

A bench is operated from outside: actions are performed, time passes, and some day it
is stopped.  In the middle of all this works run and perform actions of their own.
But whoever acts, a bench only ever changes in a few ways, one after the other, and
everything that is true of a run is shown for each of these changes.
-/

/-- What is done to a bench from outside. -/
inductive Operation where
  | perform (action : Action)
  | advance (milliseconds : Nat)
  | stop

namespace Bench

variable {bench later : Bench}

def operate (bench : Bench) : Operation → Bench
  | .perform action =>
      (bench.perform action).2
  | .advance milliseconds =>
      bench.advance milliseconds
  | .stop =>
      bench.stop

def operateAll
    (bench : Bench)
    (operations : List Operation) :
    Bench :=
  operations.foldl operate bench

/-- A single change of a bench. -/
inductive Change (bench : Bench) : Bench → Prop where
  | created
      (name : String) :
      Change bench { bench with table := (bench.table.create name).2 }
  | replaced
      (handle : Nat)
      (alarm? : Option (Alarm Work))
      (known : handle < bench.table.size) :
      Change bench
        ({ bench with table := bench.table.replace handle alarm? }.record
          (.replaced bench.now handle alarm?))
  /-- A millisecond passes in which nothing is due. -/
  | idled
      (running : bench.isStopped = false)
      (nothingDue : bench.table.takeDue? (bench.now + 1) = none) :
      Change bench { bench with now := bench.now + 1 }
  /-- A millisecond passes in which a work is begun; its actions are changes of their own. -/
  | fired
      (firing : Firing Work)
      (rest : Table Work)
      (running : bench.isStopped = false)
      (taken : bench.table.takeDue? (bench.now + 1) = some (firing, rest)) :
      Change bench
        ({ bench with now := bench.now + 1, table := rest }.record
          (.fired (bench.now + 1) firing))
  | panicked
      (slotName : String) :
      Change bench (bench.record (.panicked slotName))
  | stopped :
      Change bench bench.stop
  /-- Time passes after the stop. -/
  | waited
      (milliseconds : Nat)
      (stopped : bench.isStopped = true) :
      Change bench { bench with now := bench.now + milliseconds }

/-- Some changes lead from one bench to another one. -/
def Reaches (bench later : Bench) : Prop :=
  Relation.ReflTransGen Change bench later

theorem Reaches.of_change
    (change : Change bench later) :
    Reaches bench later :=
  .single change

theorem Reaches.trans
    {last : Bench}
    (reaches : Reaches bench later)
    (onwards : Reaches later last) :
    Reaches bench last :=
  Relation.ReflTransGen.trans reaches onwards

/-- What an action can do. -/
inductive Performed (bench : Bench) : Bench → Prop where
  | nothing :
      Performed bench bench
  | created
      (name : String) :
      Performed bench { bench with table := (bench.table.create name).2 }
  | replaced
      (handle : Nat)
      (alarm? : Option (Alarm Work))
      (known : handle < bench.table.size) :
      Performed bench
        ({ bench with table := bench.table.replace handle alarm? }.record
          (.replaced bench.now handle alarm?))

/-- The alarm of a slot that is there is replaced, or else nothing is done. -/
theorem put_cases
    (bench : Bench)
    (handle : Nat)
    (alarm? : Option (Alarm Work))
    (onSuccess : Reply)
    (onError : HandleError → Reply) :
    (handle < bench.table.size ∧
        bench.put handle alarm? onSuccess onError =
          (onSuccess,
            { bench with table := bench.table.replace handle alarm? }.record
              (.replaced bench.now handle alarm?))) ∨
      (bench.table.size ≤ handle ∧
        bench.put handle alarm? onSuccess onError =
          (onError ⟨.scheduler, handle, bench.table.size⟩, bench)) := by
  by_cases known : handle < bench.table.size
  · refine .inl ⟨known, ?_⟩
    simp only [put, Table.put, if_pos known]
  · refine .inr ⟨Nat.not_lt.mp known, ?_⟩
    simp only [put, Table.put, if_neg known]

theorem performed_put
    (bench : Bench)
    (handle : Nat)
    (alarm? : Option (Alarm Work))
    (onSuccess : Reply)
    (onError : HandleError → Reply) :
    Performed bench (bench.put handle alarm? onSuccess onError).2 := by
  rcases bench.put_cases handle alarm? onSuccess onError with ⟨known, putIs⟩ | ⟨-, putIs⟩
  · rw [putIs]
    exact .replaced handle alarm? known
  · rw [putIs]
    exact .nothing

theorem performed_perform
    (bench : Bench)
    (action : Action) :
    Performed bench (bench.perform action).2 := by
  cases action with
  | create name =>
      exact .created name
  | isArmed handle =>
      exact .nothing
  | set handle deadline work script =>
      exact performed_put ..
  | clear handle =>
      exact performed_put ..
  | schedule handle delay work script =>
      exact performed_put ..
  | trySet handle deadline work script =>
      exact performed_put ..
  | tryClear handle =>
      exact performed_put ..
  | panic message =>
      exact .nothing

theorem Performed.reaches
    (performed : Performed bench later) :
    Reaches bench later := by
  cases performed with
  | nothing =>
      exact .refl
  | created name =>
      exact .of_change (.created name)
  | replaced handle alarm? known =>
      exact .of_change (.replaced handle alarm? known)

/-- An action changes neither the clock nor whether the bench is stopped. -/
theorem Performed.clock_eq
    (performed : Performed bench later) :
    later.now = bench.now ∧ later.isStopped = bench.isStopped := by
  cases performed with
  | nothing =>
      exact ⟨rfl, rfl⟩
  | created name =>
      exact ⟨rfl, rfl⟩
  | replaced handle alarm? known =>
      exact ⟨rfl, rfl⟩

/-- Whatever holds after each action of a script holds after the script. -/
theorem performAll_induction
    {motive : Bench → Prop}
    (kept : ∀ bench action, motive bench → motive (bench.perform action).2)
    (holds : motive bench)
    (script : List Action) :
    motive (bench.performAll script).2 := by
  induction script generalizing bench with
  | nil =>
      exact holds
  | cons action rest inductionHypothesis =>
      have heldAfter := kept bench action holds
      unfold performAll
      split
      · rename_i message next performed
        rw [performed] at heldAfter
        exact heldAfter
      · rename_i reply next notPanicked performed
        rw [performed] at heldAfter
        exact inductionHypothesis heldAfter

theorem reaches_performAll
    (bench : Bench)
    (script : List Action) :
    Reaches bench (bench.performAll script).2 := by
  refine performAll_induction (motive := Reaches bench) ?_ .refl script
  intro between action reached
  exact reached.trans (performed_perform between action).reaches

theorem clock_performAll
    (bench : Bench)
    (script : List Action) :
    (bench.performAll script).2.now = bench.now ∧
      (bench.performAll script).2.isStopped = bench.isStopped := by
  refine
    performAll_induction
      (motive := fun after => after.now = bench.now ∧ after.isStopped = bench.isStopped)
      ?_ ⟨rfl, rfl⟩ script
  intro between action same
  obtain ⟨sameNow, sameStopped⟩ := (performed_perform between action).clock_eq
  exact ⟨sameNow.trans same.1, sameStopped.trans same.2⟩

/-- A work starts on time, and a bench that runs goes on running. -/
theorem clock_run
    (now : Nat)
    (firing : Firing Work)
    (bench : Bench) :
    (bench.run now firing).now = now ∧ (bench.run now firing).isStopped = bench.isStopped := by
  have performed :=
    clock_performAll ({ bench with now }.record (.fired now firing)) firing.alarm.work.script
  simp only [run]
  split
  · exact performed
  · exact performed

theorem reaches_run
    (now : Nat)
    (firing : Firing Work)
    (bench : Bench) :
    Reaches ({ bench with now }.record (.fired now firing)) (bench.run now firing) := by
  have performed :=
    reaches_performAll ({ bench with now }.record (.fired now firing))
      firing.alarm.work.script
  simp only [run]
  split
  · exact performed.trans (.of_change (.panicked _))
  · exact performed

theorem isStopped_wakeUp
    (now : Nat)
    (bench : Bench) :
    (host.wakeUp now bench).isStopped = bench.isStopped := by
  unfold Host.wakeUp
  split
  · rfl
  · exact (clock_run now _ _).2

/-- In a millisecond nothing is due, or a work is done. -/
theorem reaches_wakeUp
    (running : bench.isStopped = false)
    (now : Nat) :
    Reaches { bench with now } { host.wakeUp (now + 1) bench with now := now + 1 } := by
  cases taken : bench.table.takeDue? (now + 1) with
  | none =>
      rw [Host.wakeUp_of_takeDue?_eq_none host taken]
      exact .of_change (.idled running taken)
  | some both =>
      obtain ⟨firing, rest⟩ := both
      have woken :
          host.wakeUp (now + 1) bench = ({ bench with table := rest }).run (now + 1) firing :=
        Host.wakeUp_of_takeDue?_eq_some host taken
      have onTime := (clock_run (now + 1) firing { bench with table := rest }).1
      have done := reaches_run (now + 1) firing { bench with table := rest }
      rw [woken]
      generalize ({ bench with table := rest }).run (now + 1) firing = after at onTime done
      obtain ⟨afterNow, isStopped, table, history⟩ := after
      cases onTime
      have begun :
          Change { bench with now }
            ({ bench with now := now + 1, table := rest }.record (.fired (now + 1) firing)) :=
        .fired firing rest running taken
      exact (Reaches.of_change begun).trans done

theorem reaches_tick
    (running : bench.isStopped = false)
    (remaining now : Nat) :
    Reaches { bench with now }
      { host.tick remaining now bench with now := now + remaining } := by
  induction remaining generalizing now bench with
  | zero =>
      exact .refl
  | succ remaining inductionHypothesis =>
      have stillRunning := (isStopped_wakeUp (now + 1) bench).trans running
      have onwards := inductionHypothesis stillRunning (now + 1)
      rw [Nat.add_right_comm now 1 remaining] at onwards
      exact (reaches_wakeUp running now).trans onwards

theorem reaches_advance
    (bench : Bench)
    (milliseconds : Nat) :
    Reaches bench (bench.advance milliseconds) := by
  simp only [advance]
  by_cases stopped : bench.isStopped = true
  · rw [if_pos stopped]
    exact .of_change (.waited milliseconds stopped)
  · rw [if_neg stopped, Host.advance_eq_tick, Nat.add_sub_cancel_left]
    exact reaches_tick (eq_false_of_ne_true stopped) milliseconds bench.now

theorem reaches_operate
    (bench : Bench)
    (operation : Operation) :
    Reaches bench (bench.operate operation) := by
  cases operation with
  | perform action =>
      exact (performed_perform bench action).reaches
  | advance milliseconds =>
      exact reaches_advance bench milliseconds
  | stop =>
      exact .of_change .stopped

/-- Operations change a bench step by step. -/
theorem reaches_operateAll
    (bench : Bench)
    (operations : List Operation) :
    Reaches bench (bench.operateAll operations) :=
  List.foldlRecOn (motive := Reaches bench) operations operate .refl
    fun between reached operation _ => reached.trans (reaches_operate between operation)

theorem Change.history_isPrefix
    (change : Change bench later) :
    bench.history <+: later.history := by
  cases change with
  | created name =>
      exact List.prefix_refl _
  | replaced handle alarm? known =>
      exact List.prefix_append _ _
  | idled running nothingDue =>
      exact List.prefix_refl _
  | fired firing rest running taken =>
      exact List.prefix_append _ _
  | panicked slotName =>
      exact List.prefix_append _ _
  | stopped =>
      exact List.prefix_refl _
  | waited milliseconds stopped =>
      exact List.prefix_refl _

/-- Nothing is ever taken out of the history. -/
theorem Reaches.history_isPrefix
    (reaches : Reaches bench later) :
    bench.history <+: later.history := by
  induction reaches with
  | refl =>
      exact List.prefix_refl _
  | tail _ change inductionHypothesis =>
      exact inductionHypothesis.trans change.history_isPrefix

end Bench

end RefreshRate.Timer
