import RefreshRate.Executor.Bench
import RefreshRate.Proofs.Executor.Course

namespace RefreshRate.Executor

/-!
# Scripted works take their course

A bench does in one step what its executor does in many moves: a scripted work adds slots
and queues works one after the other, and then the worker goes on.  So whatever is done to
a bench, its executor has taken some course, and the history of the bench tells which works
were accepted and ended in it.
-/

/-- Slots are added and works queued from outside, and by the work that is being done. -/
def Move.isAct {Work : Type} : Move Work → Bool
  | .create _ | .put .. =>
      true
  | .stop | .work =>
      false

/-- What is done to a bench from outside, and the steps of its worker. -/
inductive Operation where
  | perform (action : Action)
  | enqueue (handle : Nat) (work : Work)
  | work
  | stop

namespace Event

def queued? : Event → Option (Nat × Work)
  | .queued handle work =>
      some (handle, work)
  | .begun .. | .panicked _ =>
      none

def done? : Event → Option (Nat × Work)
  | .begun handle work =>
      some (handle, work)
  | .queued .. | .panicked _ =>
      none

end Event

/-- The moves that an action makes. -/
def Action.moves : Action → List (Move Work)
  | .create name =>
      [.create name]
  | .set handle work script | .trySet handle work script =>
      [.put handle ⟨some work, script⟩]
  | .panic _ =>
      []

/-- Whether an action panics: on purpose, or because it must not fail and its slot is not there. -/
def Action.panics (executor : Executor Work) : Action → Bool
  | .create _ | .trySet .. =>
      false
  | .set handle _ _ =>
      decide (executor.size ≤ handle)
  | .panic _ =>
      true

/-- The moves that a script makes, until one of its actions panics. -/
def scriptMoves
    (executor : Executor Work) :
    List Action → List (Move Work)
  | [] =>
      []
  | action :: rest =>
      action.moves ++
        if action.panics executor then [] else scriptMoves (executor.run action.moves) rest

/-- The moves that the work makes that is being done, if there is one. -/
def movesInHand (executor : Executor Work) : List (Move Work) :=
  match executor.worker with
  | .running _ _ work =>
      scriptMoves executor work.script
  | _ =>
      []

/-- The moves that an operation on a bench makes; a work is done to its end in one step. -/
def Operation.moves (executor : Executor Work) : Operation → List (Move Work)
  | .perform action =>
      action.moves
  | .enqueue handle queued =>
      [.put handle queued]
  | .work =>
      executor.movesInHand ++ [.work]
  | .stop =>
      [.stop]

/-- The moves that operations on a bench make, one after the other. -/
def movesOf
    (executor : Executor Work) :
    List Operation → List (Move Work)
  | [] =>
      []
  | operation :: rest =>
      operation.moves executor ++ movesOf (executor.run (operation.moves executor)) rest

namespace Bench

variable {bench later last : Bench}

/-- The works that the slots of a bench have accepted. -/
def queued (bench : Bench) : List (Nat × Work) :=
  bench.history.filterMap Event.queued?

/-- The works that have been done on a bench, to the end or until they panicked. -/
def done (bench : Bench) : List (Nat × Work) :=
  bench.history.filterMap Event.done?

def operate (bench : Bench) : Operation → Bench
  | .perform action =>
      (bench.perform action).2
  | .enqueue handle work =>
      (bench.put handle work .done .refused).2
  | .work =>
      (crew.step? bench).getD bench
  | .stop =>
      bench.requestStop

def operateAll
    (bench : Bench)
    (operations : List Operation) :
    Bench :=
  operations.foldl operate bench

theorem queued_record
    (bench : Bench)
    (event : Event) :
    (bench.record event).queued = bench.queued ++ event.queued?.toList := by
  rw [queued, record, List.filterMap_append]
  cases event <;> rfl

theorem done_record
    (bench : Bench)
    (event : Event) :
    (bench.record event).done = bench.done ++ event.done?.toList := by
  rw [done, record, List.filterMap_append]
  cases event <;> rfl

/-- A bench comes to be another one as its executor makes some moves. -/
structure Leads
    (bench : Bench)
    (moves : List (Move Work))
    (later : Bench) :
    Prop where
  executor : later.executor = bench.executor.run moves
  queued : later.queued = bench.queued ++ bench.executor.accepted moves
  done : later.done = bench.done ++ bench.executor.ended moves

theorem Leads.refl (bench : Bench) : Leads bench [] bench :=
  ⟨rfl, (List.append_nil _).symm, (List.append_nil _).symm⟩

theorem Leads.trans
    {moves others : List (Move Work)}
    (leads : Leads bench moves later)
    (onwards : Leads later others last) :
    Leads bench (moves ++ others) last where
  executor := by
    rw [onwards.executor, leads.executor, run_append]
  queued := by
    rw [onwards.queued, leads.queued, leads.executor, accepted, accepted, accepted, noted_append,
      List.append_assoc]
  done := by
    rw [onwards.done, leads.done, leads.executor, ended, ended, ended, noted_append,
      List.append_assoc]

/-- A work is queued on a slot that is there, or else nothing is done. -/
theorem put_cases
    (bench : Bench)
    (handle : Nat)
    (work : Work)
    (onSuccess : Reply)
    (onError : HandleError → Reply) :
    (handle < bench.executor.size ∧
        bench.put handle work onSuccess onError =
          (onSuccess,
            { bench with
                executor :=
                  { bench.executor.replace handle (some work) with
                    isPending := true } }.record (.queued handle work))) ∨
      (bench.executor.size ≤ handle ∧
        bench.put handle work onSuccess onError =
          (onError ⟨.executor, handle, bench.executor.size⟩, bench)) := by
  by_cases known : handle < bench.executor.size
  · refine .inl ⟨known, ?_⟩
    simp only [put, enqueue, Executor.put, if_pos known, Except.map]
  · refine .inr ⟨Nat.not_lt.mp known, ?_⟩
    simp only [put, enqueue, Executor.put, if_neg known, Except.map]

theorem leads_put
    (bench : Bench)
    (handle : Nat)
    (work : Work)
    (onSuccess : Reply)
    (onError : HandleError → Reply) :
    Leads bench [.put handle work] (bench.put handle work onSuccess onError).2 := by
  rcases bench.put_cases handle work onSuccess onError with ⟨known, putIs⟩ | ⟨unknown, putIs⟩
  · rw [putIs]
    constructor
    · change _ = bench.executor.move (.put handle work)
      rw [move_put, if_pos known]
      rfl
    · have acceptsWork : bench.executor.accepted [.put handle work] = [(handle, work)] := by
        simp only [accepted, noted, accepts?, if_pos known, Option.toList_some, List.append_nil]
      rw [queued_record, acceptsWork]
      rfl
    · rw [done_record]
      rfl
  · have notKnown : ¬handle < bench.executor.size := Nat.not_lt.mpr unknown
    rw [putIs]
    constructor
    · change _ = bench.executor.move (.put handle work)
      rw [move_put, if_neg notKnown]
    · simp [accepted, noted, accepts?, notKnown]
    · simp [ended, noted, ends?]

theorem leads_perform
    (bench : Bench)
    (action : Action) :
    Leads bench action.moves (bench.perform action).2 := by
  cases action with
  | create name =>
      exact ⟨rfl, (List.append_nil _).symm, (List.append_nil _).symm⟩
  | set handle work script =>
      exact leads_put ..
  | trySet handle work script =>
      exact leads_put ..
  | panic message =>
      exact .refl bench

theorem isAct_of_mem_moves
    {action : Action}
    {move : Move Work}
    (member : move ∈ action.moves) :
    move.isAct = true := by
  cases action with
  | panic message =>
      cases member
  | _ =>
      rw [List.mem_singleton.mp member]
      rfl

/-- A script goes on unless an action panics. -/
theorem panics_eq
    (bench : Bench)
    (action : Action) :
    (∃ message, (bench.perform action).1 = .panicked message) ↔
      action.panics bench.executor = true := by
  cases action with
  | create name =>
      simp [perform, Action.panics]
  | set handle work script =>
      rcases bench.put_cases handle ⟨some work, script⟩ .done panicReply with
        ⟨known, putIs⟩ | ⟨unknown, putIs⟩
      · simp [perform, putIs, Action.panics, known]
      · simp [perform, putIs, Action.panics, unknown, panicReply]
  | trySet handle work script =>
      rcases bench.put_cases handle ⟨some work, script⟩ .accepted .refused with
        ⟨-, putIs⟩ | ⟨-, putIs⟩
      · simp [perform, putIs, Action.panics]
      · simp [perform, putIs, Action.panics]
  | panic message =>
      simp [perform, Action.panics]

theorem performAll_cons
    (bench : Bench)
    (action : Action)
    (rest : List Action) :
    (bench.performAll (action :: rest)).2 =
      if action.panics bench.executor then
        (bench.perform action).2
      else
        ((bench.perform action).2.performAll rest).2 := by
  have panics := bench.panics_eq action
  rw [performAll]
  split
  · rename_i message next performed
    rw [performed] at panics ⊢
    rw [if_pos (panics.mp ⟨message, rfl⟩)]
  · rename_i reply next notPanicked performed
    rw [performed] at panics ⊢
    have goesOn : ¬action.panics bench.executor = true := by
      intro panicked
      obtain ⟨message, isPanic⟩ := panics.mpr panicked
      exact notPanicked message isPanic
    rw [if_neg goesOn]

/-- A script makes its moves. -/
theorem leads_performAll
    (bench : Bench)
    (script : List Action) :
    Leads bench (scriptMoves bench.executor script) (bench.performAll script).2 := by
  induction script generalizing bench with
  | nil =>
      exact .refl bench
  | cons action rest inductionHypothesis =>
      have first := leads_perform bench action
      rw [performAll_cons, scriptMoves]
      by_cases panicked : action.panics bench.executor = true
      · rw [if_pos panicked, if_pos panicked, List.append_nil]
        exact first
      · rw [if_neg panicked, if_neg panicked, ← first.executor]
        exact first.trans (inductionHypothesis _)

theorem isAct_of_mem_scriptMoves
    {executor : Executor Work}
    {script : List Action}
    {move : Move Work}
    (member : move ∈ scriptMoves executor script) :
    move.isAct = true := by
  induction script generalizing executor with
  | nil =>
      cases member
  | cons action rest inductionHypothesis =>
      rcases List.mem_append.mp member with inFirst | inRest
      · exact isAct_of_mem_moves inFirst
      · split at inRest
        · cases inRest
        · exact inductionHypothesis inRest

end Bench

section Acts

variable
  {Work : Type}
  {acts : List (Move Work)}
  (areActs : ∀ move ∈ acts, move.isAct = true)

include areActs

/-- What is done in the middle of a work leaves the worker alone and ends nothing. -/
theorem worker_run_of_acts (executor : Executor Work) :
    (executor.run acts).worker = executor.worker ∧ executor.ended acts = [] := by
  induction acts generalizing executor with
  | nil =>
      exact ⟨rfl, rfl⟩
  | cons first rest inductionHypothesis =>
      have isAct := areActs first List.mem_cons_self
      obtain ⟨sameWorker, nothingEnded⟩ :=
        inductionHypothesis (fun move member => areActs move (List.mem_cons_of_mem first member))
          (executor.move first)
      have notWork : first ≠ .work := by
        rintro rfl
        cases isAct
      have endsNothing : executor.ends? first = none := by
        cases first with
        | work =>
            exact absurd rfl notWork
        | _ =>
            rfl
      refine ⟨sameWorker.trans (worker_move notWork), ?_⟩
      rw [ended, noted, endsNothing]
      exact nothingEnded

end Acts

namespace Bench

variable {bench next : Bench}

/-- A work makes the moves of its script, and the bench notes that it was done. -/
theorem leads_run
    (handle : Nat)
    (slotName : String)
    (work : Work)
    (bench : Bench) :
    (run handle slotName work bench).executor =
        bench.executor.run (scriptMoves bench.executor work.script) ∧
      (run handle slotName work bench).queued =
          bench.queued ++ bench.executor.accepted (scriptMoves bench.executor work.script) ∧
        (run handle slotName work bench).done = bench.done ++ [(handle, work)] := by
  obtain ⟨executor, queued, done⟩ :=
    leads_performAll (bench.record (.begun handle work)) work.script
  have areActs : ∀ move ∈ scriptMoves bench.executor work.script, move.isAct = true :=
    fun _ => isAct_of_mem_scriptMoves
  obtain ⟨-, nothingEnded⟩ := worker_run_of_acts areActs bench.executor
  rw [queued_record] at queued
  rw [done_record] at done
  change
    _ = bench.queued ++ [] ++ bench.executor.accepted (scriptMoves bench.executor work.script)
      at queued
  change
    _ =
      bench.done ++ [(handle, work)] ++
        bench.executor.ended (scriptMoves bench.executor work.script)
      at done
  rw [List.append_nil] at queued
  rw [nothingEnded, List.append_nil] at done
  simp only [run]
  split
  · -- a panic is reported, and the report is neither of a work accepted nor of one done
    rw [queued_record, done_record, queued, done]
    exact ⟨executor, List.append_nil _, List.append_nil _⟩
  · exact ⟨executor, queued, done⟩

theorem isAct_of_mem_movesInHand
    {executor : Executor Work}
    {move : Move Work}
    (member : move ∈ executor.movesInHand) :
    move.isAct = true := by
  unfold movesInHand at member
  split at member
  · exact isAct_of_mem_scriptMoves member
  · cases member

/-- The step in which a bench does a whole work is made of the moves of the work. -/
theorem leads_finish
    {cursor : Nat}
    {slotName : String}
    {work : Work}
    (running : bench.executor.worker = .running cursor slotName work) :
    Leads bench (bench.executor.movesInHand ++ [.work])
      (crew.finish cursor slotName work bench) := by
  obtain ⟨executor, queued, done⟩ := leads_run cursor slotName work bench
  have inHand : scriptMoves bench.executor work.script = bench.executor.movesInHand := by
    simp only [movesInHand, running]
  rw [inHand] at executor queued
  have areActs : ∀ move ∈ bench.executor.movesInHand, move.isAct = true :=
    fun _ => isAct_of_mem_movesInHand
  generalize bench.executor.movesInHand = acts at executor queued areActs
  obtain ⟨sameWorker, nothingEnded⟩ := worker_run_of_acts areActs bench.executor
  have stillRunning : (bench.executor.run acts).worker = .running cursor slotName work :=
    sameWorker.trans running
  constructor
  · rw [run_append]
    change
      { (run cursor slotName work bench).executor with worker := .scanning (cursor + 1) } =
        (bench.executor.run acts).move .work
    simp only [executor, move, step?_bare, stillRunning, Option.getD_some]
  · rw [accepted, noted_append]
    change
      (run cursor slotName work bench).queued =
        bench.queued ++ (bench.executor.accepted acts ++ [])
    rw [List.append_nil]
    exact queued
  · have endsWork : (bench.executor.run acts).ends? .work = some (cursor, work) := by
      simp only [ends?, stillRunning]
    rw [ended, noted_append]
    change
      (run cursor slotName work bench).done =
        bench.done ++
          (bench.executor.ended acts ++ (((bench.executor.run acts).ends? .work).toList ++ []))
    rw [nothingEnded, endsWork]
    exact done

/-- A step of the worker of a bench is made of moves, of which the last is the worker's. -/
theorem leads_work
    (bench : Bench) :
    Leads bench (bench.executor.movesInHand ++ [.work]) ((crew.step? bench).getD bench) := by
  rcases crew.step_cases bench with
    ⟨cursor, slotName, work, running, finishes⟩ | ⟨notRunning, goesOn⟩
  · rw [finishes, Option.getD_some]
    exact leads_finish running
  · have nothingInHand : bench.executor.movesInHand = [] := by
      unfold movesInHand
      split
      · rename_i running
        exact absurd running (notRunning _ _ _)
      · rfl
    rw [nothingInHand, crew.getD_step? rfl goesOn]
    refine ⟨rfl, (List.append_nil _).symm, ?_⟩
    change bench.done = bench.done ++ (((crew.executor bench).ends? .work).toList ++ [])
    rw [ends?_of_notRunning notRunning]
    exact (List.append_nil _).symm

theorem leads_of_step?
    (stepped : crew.step? bench = some next) :
    Leads bench (bench.executor.movesInHand ++ [.work]) next := by
  have leads := leads_work bench
  rwa [stepped, Option.getD_some] at leads

theorem leads_operate
    (bench : Bench)
    (operation : Operation) :
    Leads bench (operation.moves bench.executor) (bench.operate operation) := by
  cases operation with
  | perform action =>
      exact leads_perform bench action
  | enqueue handle work =>
      exact leads_put ..
  | work =>
      exact leads_work bench
  | stop =>
      exact ⟨rfl, (List.append_nil _).symm, (List.append_nil _).symm⟩

/-- Whatever is done to a bench, its executor makes the moves of the operations. -/
theorem leads_operateAll
    (bench : Bench)
    (operations : List Operation) :
    Leads bench (movesOf bench.executor operations) (bench.operateAll operations) := by
  induction operations generalizing bench with
  | nil =>
      exact .refl bench
  | cons operation rest inductionHypothesis =>
      have first := leads_operate bench operation
      rw [movesOf, ← first.executor]
      exact first.trans (inductionHypothesis _)

end Bench

end RefreshRate.Executor
