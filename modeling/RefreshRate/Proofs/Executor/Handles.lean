import RefreshRate.Proofs.Executor.Script
import RefreshRate.Proofs.Handle.Course

namespace RefreshRate.Executor

/-!
# The handles of a bench of works

What is asked of a bench from outside and by the work that is being done is one long course
of calls.  Between them the worker takes its steps, the stop is requested, and things are
noted, and none of this adds a slot.
-/

/-- What can be asked of a bench: an action, or that a work of any kind is queued. -/
inductive Call where
  | perform (action : Action)
  | enqueue (handle : Nat) (work : Work)

namespace Call

def addsSlot : Call → Bool
  | .perform (.create _) =>
      true
  | _ =>
      false

def handle? : Call → Option Nat
  | .perform (.set handle ..) | .perform (.trySet handle ..) | .enqueue handle _ =>
      some handle
  | .perform (.create _) | .perform (.panic _) =>
      none

/-- The answer to a call, which the number of slots decides. -/
def answer (slots : Nat) : Call → Reply
  | .perform (.create _) =>
      .handle slots
  | .perform (.set handle ..) =>
      if handle < slots then
        .done
      else
        .panicked (HandleError.message ⟨.executor, handle, slots⟩)
  | .perform (.trySet handle ..) =>
      if handle < slots then .accepted else .refused ⟨.executor, handle, slots⟩
  | .enqueue handle _ =>
      if handle < slots then .done else .refused ⟨.executor, handle, slots⟩
  | .perform (.panic message) =>
      .panicked message

end Call

def Reply.isPanic : Reply → Bool
  | .panicked _ =>
      true
  | _ =>
      false

namespace Bench

variable {bench next : Bench}

/-- Answer a call. -/
def answer (bench : Bench) : Call → Reply × Bench
  | .perform action =>
      bench.perform action
  | .enqueue handle work =>
      bench.put handle work .done .refused

/-- A single change of a bench that is not the answer to a call. -/
inductive Turn (bench : Bench) : Bench → Prop where
  | worked :
      Turn bench { bench with executor := bench.executor.move .work }
  | stopped :
      Turn bench bench.requestStop
  | noted
      (event : Event) :
      Turn bench (bench.record event)

theorem Turn.size_eq
    (turn : Turn bench next) :
    next.executor.size = bench.executor.size := by
  cases turn with
  | worked =>
      exact (worked_move bench.executor).size_eq
  | stopped =>
      rfl
  | noted event =>
      rfl

section Put

variable
  (bench : Bench)
  (handle : Nat)
  (work : Work)
  (onSuccess : Reply)
  (onError : HandleError → Reply)

theorem put_answers :
    (bench.put handle work onSuccess onError).1 =
      if handle < bench.executor.size then
        onSuccess
      else
        onError ⟨.executor, handle, bench.executor.size⟩ := by
  rcases bench.put_cases handle work onSuccess onError with ⟨known, putIs⟩ | ⟨unknown, putIs⟩
  · rw [putIs, if_pos known]
  · rw [putIs, if_neg (Nat.not_lt.mpr unknown)]

theorem size_put :
    (bench.put handle work onSuccess onError).2.executor.size = bench.executor.size := by
  rcases bench.put_cases handle work onSuccess onError with ⟨known, putIs⟩ | ⟨unknown, putIs⟩
  · rw [putIs]
    exact size_replace bench.executor handle (some work)
  · rw [putIs]

end Put

theorem answer_fst
    (bench : Bench)
    (call : Call) :
    (bench.answer call).1 = call.answer bench.executor.size := by
  cases call with
  | perform action =>
      cases action with
      | create | panic =>
          rfl
      | set | trySet =>
          exact put_answers ..
  | enqueue handle work =>
      exact put_answers ..

theorem size_answer
    (bench : Bench)
    (call : Call) :
    (bench.answer call).2.executor.size = bench.executor.size + call.addsSlot.toNat := by
  cases call with
  | perform action =>
      cases action with
      | create name =>
          exact List.length_append
      | panic message =>
          rfl
      | set | trySet =>
          exact size_put ..
  | enqueue handle work =>
      exact size_put ..

/-- A bench refuses an unknown handle before it touches anything. -/
theorem answer_of_unknown
    {call : Call}
    {handle : Nat}
    (uses : call.handle? = some handle)
    (unknown : bench.executor.size ≤ handle) :
    (bench.answer call).2 = bench := by
  have putOfUnknown (work : Work) (onSuccess : Reply) (onError : HandleError → Reply) :
      (bench.put handle work onSuccess onError).2 = bench := by
    rcases bench.put_cases handle work onSuccess onError with ⟨known, -⟩ | ⟨-, putIs⟩
    · exact absurd known (Nat.not_lt.mpr unknown)
    · rw [putIs]
  cases call with
  | perform action =>
      cases action with
      | create name =>
          cases uses
      | panic message =>
          rfl
      | set | trySet =>
          cases uses
          exact putOfUnknown ..
  | enqueue other work =>
      cases uses
      exact putOfUnknown ..

/-- The executor of a bench as slots. -/
def slotHolder : SlotHolder Bench Call Reply where
  slots bench := bench.executor.size
  perform := answer
  Turn := Turn
  addsSlot := Call.addsSlot
  handle? := Call.handle?
  answer? slots call := some (call.answer slots)
  isPanic := Reply.isPanic
  perform_answers fits := (answer_fst ..).trans (Option.some.inj fits)
  slots_perform := size_answer
  perform_of_unknown := answer_of_unknown
  slots_turn := Turn.size_eq

theorem script_snd
    (bench : Bench)
    (script : List Action) :
    (slotHolder.script bench (script.map .perform)).2 = (bench.performAll script).2 := by
  induction script generalizing bench with
  | nil =>
      rfl
  | cons action rest inductionHypothesis =>
      rw [List.map_cons]
      unfold SlotHolder.script performAll
      cases performed : bench.perform action with
      | mk reply after =>
          have performs : slotHolder.perform bench (.perform action) = (reply, after) := performed
          cases reply with
          | panicked message =>
              simp only [performs]
              rfl
          | _ =>
              simp only [performs]
              exact inductionHypothesis after

/-- The answers that are given in an operation. -/
def answersIn (bench : Bench) : Operation → List (Call × Reply)
  | .perform action =>
      [(.perform action, (bench.perform action).1)]
  | .enqueue handle work =>
      [(.enqueue handle work, (bench.put handle work .done .refused).1)]
  | .work =>
      match bench.executor.worker with
      | .running cursor _ work =>
          (slotHolder.script (bench.record (.begun cursor work)) (work.script.map .perform)).1
      | _ =>
          []
  | .stop =>
      []

/-- All answers that are given in some operations, from outside and to works. -/
def answers (bench : Bench) : List Operation → List (Call × Reply)
  | [] =>
      []
  | operation :: rest =>
      bench.answersIn operation ++ (bench.operate operation).answers rest

/-- What a work does leaves the worker alone. -/
theorem worker_run
    (cursor : Nat)
    (slotName : String)
    (work : Work)
    (bench : Bench) :
    (run cursor slotName work bench).executor.worker = bench.executor.worker := by
  obtain ⟨executor, -, -⟩ := leads_run cursor slotName work bench
  rw [executor]
  exact (worker_run_of_acts (fun _ => isAct_of_mem_scriptMoves) bench.executor).1

theorem course_run
    (cursor : Nat)
    (slotName : String)
    (work : Work)
    (bench : Bench) :
    slotHolder.Course bench
      (slotHolder.script (bench.record (.begun cursor work)) (work.script.map .perform)).1
      (run cursor slotName work bench) := by
  have begins : slotHolder.Course bench [] (bench.record (.begun cursor work)) :=
    .of_turn (.noted (.begun cursor work))
  have scripted :=
    begins.trans
      (slotHolder.course_script (bench.record (.begun cursor work)) (work.script.map .perform))
  rw [List.nil_append, script_snd] at scripted
  simp only [run]
  split
  · exact .turned scripted (.noted (.panicked slotName))
  · exact scripted

/-- A work performs its script, and then the worker goes on. -/
theorem course_work
    (bench : Bench) :
    slotHolder.Course bench (bench.answersIn .work) (bench.operate .work) := by
  rcases crew.step_cases bench with
    ⟨cursor, slotName, work, running, finishes⟩ | ⟨notRunning, goesOn⟩
  · replace running : bench.executor.worker = .running cursor slotName work := running
    have course := course_run cursor slotName work bench
    have stillRunning := (worker_run cursor slotName work bench).trans running
    have stepped :
        (run cursor slotName work bench).executor.move .work =
          { (run cursor slotName work bench).executor with worker := .scanning (cursor + 1) } := by
      simp only [move, step?_bare, stillRunning, Option.getD_some]
    have isFinish :
        bench.operate .work =
          { run cursor slotName work bench with
            executor := (run cursor slotName work bench).executor.move .work } := by
      rw [stepped, operate, finishes, Option.getD_some]
      rfl
    simp only [answersIn, running]
    rw [isFinish]
    exact .turned course .worked
  · have noAnswers : bench.answersIn .work = [] := by
      unfold answersIn
      cases working : bench.executor.worker with
      | running cursor slotName work =>
          exact absurd working (notRunning cursor slotName work)
      | _ =>
          rfl
    have isMove :
        bench.operate .work = { bench with executor := bench.executor.move .work } :=
      crew.getD_step? rfl goesOn
    rw [noAnswers, isMove]
    exact .of_turn .worked

theorem course_operate
    (bench : Bench)
    (operation : Operation) :
    slotHolder.Course bench (bench.answersIn operation) (bench.operate operation) := by
  cases operation with
  | perform action =>
      exact .of_perform bench (Call.perform action)
  | enqueue handle work =>
      exact .of_perform bench (Call.enqueue handle work)
  | work =>
      exact course_work bench
  | stop =>
      exact .of_turn .stopped

/-- Whatever is done to a bench, its answers are given in the course of it. -/
theorem course_operateAll
    (bench : Bench)
    (operations : List Operation) :
    slotHolder.Course bench (bench.answers operations) (bench.operateAll operations) := by
  induction operations generalizing bench with
  | nil =>
      exact .started
  | cons operation rest inductionHypothesis =>
      exact (course_operate bench operation).trans (inductionHypothesis _)

end Bench

end RefreshRate.Executor
