import RefreshRate.Proofs.Handle.Course
import RefreshRate.Proofs.Timer.Watch

namespace RefreshRate.Timer

/-!
# The handles of a bench of timers

What is done to a bench from outside and by its works is one long course of actions: the
actions from outside are answered where they stand, and those of a work when it fires.
Between them time passes, alarms are taken, panics are noted, and the bench is stopped,
and none of this adds a slot.
-/

namespace Action

def addsSlot : Action → Bool
  | .create _ =>
      true
  | _ =>
      false

def handle? : Action → Option Nat
  | .isArmed handle | .set handle .. | .clear handle | .schedule handle .. | .trySet handle ..
  | .tryClear handle =>
      some handle
  | .create _ | .panic _ =>
      none

/-- The answer to an action, where the number of slots decides it. -/
def answer? (slots : Nat) : Action → Option Reply
  | .create _ =>
      some (.handle slots)
  | .isArmed handle =>
      if handle < slots then none else some (.armed false)
  | .set handle .. | .clear handle | .schedule handle .. =>
      some <|
        if handle < slots then
          .done
        else
          .panicked (HandleError.message ⟨.scheduler, handle, slots⟩)
  | .trySet handle .. | .tryClear handle =>
      some <| if handle < slots then .accepted else .refused ⟨.scheduler, handle, slots⟩
  | .panic message =>
      some (.panicked message)

end Action

def Reply.isPanic : Reply → Bool
  | .panicked _ =>
      true
  | _ =>
      false

theorem Table.isArmed_of_unknown
    {Work : Type}
    {table : Table Work}
    {handle : Nat}
    (unknown : table.size ≤ handle) :
    table.isArmed handle = false := by
  rw [isArmed, alarm?, List.getElem?_eq_none unknown]
  rfl

namespace Bench

variable {bench : Bench}

section Put

variable
  (bench : Bench)
  (handle : Nat)
  (alarm? : Option (Alarm Work))
  (onSuccess : Reply)
  (onError : HandleError → Reply)

theorem put_answers :
    (bench.put handle alarm? onSuccess onError).1 =
      if handle < bench.table.size then
        onSuccess
      else
        onError ⟨.scheduler, handle, bench.table.size⟩ := by
  rcases bench.put_cases handle alarm? onSuccess onError with ⟨known, putIs⟩ | ⟨unknown, putIs⟩
  · rw [putIs, if_pos known]
  · rw [putIs, if_neg (Nat.not_lt.mpr unknown)]

theorem size_put :
    (bench.put handle alarm? onSuccess onError).2.table.size = bench.table.size := by
  rcases bench.put_cases handle alarm? onSuccess onError with ⟨known, putIs⟩ | ⟨unknown, putIs⟩
  · rw [putIs]
    exact Table.size_replace bench.table handle alarm?
  · rw [putIs]

end Put

theorem perform_answers
    {action : Action}
    {reply : Reply}
    (fits : action.answer? bench.table.size = some reply) :
    (bench.perform action).1 = reply := by
  cases action with
  | create name =>
      exact Option.some.inj fits
  | isArmed handle =>
      simp only [Action.answer?] at fits
      split at fits
      · cases fits
      · rename_i notKnown
        cases fits
        exact congrArg Reply.armed (Table.isArmed_of_unknown (Nat.not_lt.mp notKnown))
  | panic message =>
      exact Option.some.inj fits
  | set | clear | schedule | trySet | tryClear =>
      exact (put_answers ..).trans (Option.some.inj fits)

theorem size_perform
    (bench : Bench)
    (action : Action) :
    (bench.perform action).2.table.size = bench.table.size + action.addsSlot.toNat := by
  cases action with
  | create name =>
      exact Table.size_create bench.table name
  | isArmed | panic =>
      rfl
  | set | clear | schedule | trySet | tryClear =>
      exact size_put ..

/-- A bench refuses an unknown handle before it touches anything. -/
theorem perform_of_unknown
    {action : Action}
    {handle : Nat}
    (uses : action.handle? = some handle)
    (unknown : bench.table.size ≤ handle) :
    (bench.perform action).2 = bench := by
  have putOfUnknown
      (alarm? : Option (Alarm Work)) (onSuccess : Reply) (onError : HandleError → Reply) :
      (bench.put handle alarm? onSuccess onError).2 = bench := by
    rcases bench.put_cases handle alarm? onSuccess onError with ⟨known, -⟩ | ⟨-, putIs⟩
    · exact absurd known (Nat.not_lt.mpr unknown)
    · rw [putIs]
  cases action with
  | create name =>
      cases uses
  | isArmed | panic =>
      rfl
  | set | clear | schedule | trySet | tryClear =>
      cases uses
      exact putOfUnknown ..

/-- The timers of a bench as slots; any change that adds no slot is a turn. -/
def slotHolder : SlotHolder Bench Action Reply where
  slots bench := bench.table.size
  perform := perform
  Turn bench next := Change bench next ∧ next.table.size = bench.table.size
  addsSlot := Action.addsSlot
  handle? := Action.handle?
  answer? := Action.answer?
  isPanic := Reply.isPanic
  perform_answers := perform_answers
  slots_perform := size_perform
  perform_of_unknown := perform_of_unknown
  slots_turn turn := turn.2

theorem script_snd
    (bench : Bench)
    (script : List Action) :
    (slotHolder.script bench script).2 = (bench.performAll script).2 := by
  induction script generalizing bench with
  | nil =>
      rfl
  | cons action rest inductionHypothesis =>
      unfold SlotHolder.script performAll
      cases performed : bench.perform action with
      | mk reply after =>
          have performs : slotHolder.perform bench action = (reply, after) := performed
          cases reply with
          | panicked message =>
              simp only [performs]
              rfl
          | _ =>
              simp only [performs]
              exact inductionHypothesis after

/-- The answers that the work gets that fires in the next millisecond. -/
def answersNext (bench : Bench) : List (Action × Reply) :=
  if bench.isStopped then
    []
  else
    match bench.table.takeDue? (bench.now + 1) with
    | none =>
        []
    | some (firing, rest) =>
        let begun :=
          { bench with now := bench.now + 1, table := rest }.record
            (.fired (bench.now + 1) firing)
        (slotHolder.script begun firing.alarm.work.script).1

/-- The answers that works get while some milliseconds pass. -/
def answersWithin (bench : Bench) : Nat → List (Action × Reply)
  | 0 =>
      []
  | milliseconds + 1 =>
      bench.answersNext ++ (bench.advance 1).answersWithin milliseconds

/-- The answers that are given in an operation. -/
def answersIn (bench : Bench) : Operation → List (Action × Reply)
  | .perform action =>
      [(action, (bench.perform action).1)]
  | .advance milliseconds =>
      bench.answersWithin milliseconds
  | .stop =>
      []

/-- All answers that are given in some operations, from outside and to works. -/
def answers (bench : Bench) : List Operation → List (Action × Reply)
  | [] =>
      []
  | operation :: rest =>
      bench.answersIn operation ++ (bench.operate operation).answers rest

/-- A work performs its script when it fires. -/
theorem course_fired
    {firing : Firing Work}
    {rest : Table Work}
    (running : bench.isStopped = false)
    (taken : bench.table.takeDue? (bench.now + 1) = some (firing, rest)) :
    slotHolder.Course bench bench.answersNext
      (({ bench with table := rest }).run (bench.now + 1) firing) := by
  let begun :=
    { bench with now := bench.now + 1, table := rest }.record (.fired (bench.now + 1) firing)
  have isRest : rest = bench.table.replace firing.handle none :=
    (Table.takeDue?_eq_some taken).2.2
  have sameSize : begun.table.size = bench.table.size := by
    change rest.size = bench.table.size
    rw [isRest, Table.size_replace]
  have fires : slotHolder.Course bench [] begun :=
    .of_turn ⟨.fired firing rest running taken, sameSize⟩
  have scripted := fires.trans (slotHolder.course_script begun firing.alarm.work.script)
  have answersAre :
      bench.answersNext = (slotHolder.script begun firing.alarm.work.script).1 := by
    simp only [answersNext, if_neg (Bool.eq_false_iff.mp running), taken]
    rfl
  rw [List.nil_append, ← answersAre, script_snd] at scripted
  simp only [run]
  split
  · exact .turned scripted ⟨.panicked firing.slotName, rfl⟩
  · exact scripted

theorem course_advance_one
    (bench : Bench) :
    slotHolder.Course bench bench.answersNext (bench.advance 1) := by
  by_cases stopped : bench.isStopped = true
  · simp only [answersNext, advance, if_pos stopped]
    exact .of_turn ⟨.waited 1 stopped, rfl⟩
  · have running : bench.isStopped = false := eq_false_of_ne_true stopped
    simp only [advance, if_neg stopped, Host.advance_eq_tick, Nat.add_sub_cancel_left, Host.tick]
    cases taken : bench.table.takeDue? (bench.now + 1) with
    | none =>
        rw [Host.wakeUp_of_takeDue?_eq_none host taken]
        simp only [answersNext, if_neg stopped, taken]
        exact .of_turn ⟨.idled running taken, rfl⟩
    | some both =>
        obtain ⟨firing, rest⟩ := both
        have woken :
            host.wakeUp (bench.now + 1) bench =
              ({ bench with table := rest }).run (bench.now + 1) firing :=
          Host.wakeUp_of_takeDue?_eq_some host taken
        have onTime := (clock_run (bench.now + 1) firing { bench with table := rest }).1
        have course := course_fired running taken
        rw [woken]
        generalize ({ bench with table := rest }).run (bench.now + 1) firing = after
          at onTime course
        obtain ⟨afterNow, isStopped, table, history⟩ := after
        cases onTime
        exact course

theorem advance_zero (bench : Bench) : bench.advance 0 = bench := by
  simp only [advance, Host.advance_eq_tick, Nat.add_zero, Nat.sub_self, Host.tick, ite_self]

theorem course_advance
    (bench : Bench)
    (milliseconds : Nat) :
    slotHolder.Course bench (bench.answersWithin milliseconds) (bench.advance milliseconds) := by
  induction milliseconds generalizing bench with
  | zero =>
      rw [advance_zero]
      exact .started
  | succ milliseconds inductionHypothesis =>
      rw [Nat.add_comm, ← advance_advance, Nat.add_comm]
      exact (course_advance_one bench).trans (inductionHypothesis _)

theorem course_operate
    (bench : Bench)
    (operation : Operation) :
    slotHolder.Course bench (bench.answersIn operation) (bench.operate operation) := by
  cases operation with
  | perform action =>
      exact .of_perform bench action
  | advance milliseconds =>
      exact course_advance bench milliseconds
  | stop =>
      exact .of_turn ⟨.stopped, rfl⟩

/-- Whatever is done to a bench, its answers are given in the course of it. -/
theorem course_operateAll
    (bench : Bench)
    (operations : List Operation) :
    slotHolder.Course bench (bench.answers operations) (bench.operateAll operations) := by
  induction operations generalizing bench with
  | nil =>
      exact .started
  | cons operation rest inductionHypothesis =>
      exact (course_operate bench operation).trans (inductionHypothesis _)

end Bench

end RefreshRate.Timer
