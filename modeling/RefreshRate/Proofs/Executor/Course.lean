import RefreshRate.Proofs.Executor.Attended

namespace RefreshRate.Executor

/-!
# The course of an executor

Anybody may add slots and queue works at any time: callers from outside, and the work that
is being done.  In between the worker goes on step by step.  A course is any sequence of
such moves, so it has every interleaving in it, and works that do whatever they like.

Of each move it is noted which work it begins, by taking it from its slot, and which it
ends.  A slot that is not set again loses its work only by its being begun, and what is
begun is ended before anything else is begun.
-/

/-- A move in the course of an executor. -/
inductive Move (Work : Type) where
  | create (name : String)
  | put (handle : Nat) (work : Work)
  | stop
  /-- The worker takes a step. -/
  | work

variable
  {Work : Type}
  {executor next : Executor Work}

/-- The worker alone: what its works do is done in moves of their own. -/
def bare : Crew (Executor Work) Work where
  executor := id
  withExecutor _ replacement := replacement
  run _ _ _ executor := executor
  weight _ := 1
  executor_withExecutor _ _ := rfl
  queuedWeight_run_lt _ _ _ _ := Nat.lt_succ_self _

theorem step?_bare (executor : Executor Work) :
    bare.step? executor =
      match executor.worker with
      | .waiting =>
          if executor.isPending then
            some { executor with isPending := false, worker := .scanning 0 }
          else if executor.isStopping then
            some { executor with worker := .exited }
          else
            none
      | .scanning cursor =>
          some (executor.scan cursor)
      | .running cursor _ _ =>
          some { executor with worker := .scanning (cursor + 1) }
      | .exited =>
          none :=
  rfl

def move (executor : Executor Work) : Move Work → Executor Work
  | .create name =>
      (executor.create name).2
  | .put handle work =>
      match executor.put handle work with
      | .ok next =>
          next
      | .error _ =>
          executor
  | .stop =>
      executor.stop
  | .work =>
      (bare.step? executor).getD executor

def run
    (executor : Executor Work)
    (moves : List (Move Work)) :
    Executor Work :=
  moves.foldl move executor

/-- The slot and the work that is accepted in a move. -/
def accepts? (executor : Executor Work) : Move Work → Option (Nat × Work)
  | .put handle work =>
      if handle < executor.size then some (handle, work) else none
  | .create _ | .stop | .work =>
      none

/-- The slot and the work that the worker takes from it in a move. -/
def begins? (executor : Executor Work) : Move Work → Option (Nat × Work)
  | .work =>
      match executor.worker with
      | .scanning cursor =>
          (executor.work? cursor).map fun work => (cursor, work)
      | _ =>
          none
  | .create _ | .put .. | .stop =>
      none

/-- The work that is ended in a move, whether it panics or not, and its slot. -/
def ends? (executor : Executor Work) : Move Work → Option (Nat × Work)
  | .work =>
      match executor.worker with
      | .running cursor _ work =>
          some (cursor, work)
      | _ =>
          none
  | .create _ | .put .. | .stop =>
      none

/-- The work that the worker is doing, and its slot. -/
def inHand? (executor : Executor Work) : Option (Nat × Work) :=
  match executor.worker with
  | .running cursor _ work =>
      some (cursor, work)
  | _ =>
      none

/-- What is noted of the moves of a course. -/
def noted
    (note? : Executor Work → Move Work → Option (Nat × Work))
    (executor : Executor Work) :
    List (Move Work) → List (Nat × Work)
  | [] =>
      []
  | first :: rest =>
      (note? executor first).toList ++ noted note? (executor.move first) rest

def accepted
    (executor : Executor Work)
    (moves : List (Move Work)) :
    List (Nat × Work) :=
  executor.noted accepts? moves

def begun
    (executor : Executor Work)
    (moves : List (Move Work)) :
    List (Nat × Work) :=
  executor.noted begins? moves

def ended
    (executor : Executor Work)
    (moves : List (Move Work)) :
    List (Nat × Work) :=
  executor.noted ends? moves

/-- The works of one slot. -/
def worksOf
    (handle : Nat)
    (jobs : List (Nat × Work)) :
    List Work :=
  jobs.filterMap fun job => if job.1 = handle then some job.2 else none

theorem run_append
    (executor : Executor Work)
    (moves others : List (Move Work)) :
    executor.run (moves ++ others) = (executor.run moves).run others :=
  List.foldl_append

theorem noted_append
    (note? : Executor Work → Move Work → Option (Nat × Work))
    (executor : Executor Work)
    (moves others : List (Move Work)) :
    executor.noted note? (moves ++ others) =
      executor.noted note? moves ++ (executor.run moves).noted note? others := by
  induction moves generalizing executor with
  | nil =>
      rfl
  | cons first rest inductionHypothesis =>
      simp only [List.cons_append, noted, inductionHypothesis, List.append_assoc]
      rfl

theorem worksOf_append
    (handle : Nat)
    (jobs others : List (Nat × Work)) :
    worksOf handle (jobs ++ others) = worksOf handle jobs ++ worksOf handle others :=
  List.filterMap_append

theorem move_put
    (executor : Executor Work)
    (handle : Nat)
    (work : Work) :
    executor.move (.put handle work) =
      if handle < executor.size then
        { executor.replace handle (some work) with isPending := true }
      else
        executor := by
  unfold move put
  by_cases known : handle < executor.size
  · simp only [if_pos known]
  · simp only [if_neg known]

/-- A new slot is empty, and the other slots keep their works. -/
theorem work?_create
    (executor : Executor Work)
    (name : String)
    (handle : Nat) :
    (executor.create name).2.work? handle = executor.work? handle := by
  simp only [work?, create, List.getElem?_append]
  split
  · rfl
  · rename_i outOfBounds
    rw [List.getElem?_eq_none (Nat.le_of_not_lt outOfBounds)]
    cases found : handle - executor.slots.length <;> simp

section CrewStep

variable
  {World : Type}
  {crew : Crew World Work}
  {world : World}

/-- In a step in which it does no work, a crew goes on as its executor alone does. -/
theorem Crew.step?_of_notRunning
    (crew : Crew World Work)
    (notRunning :
      ∀ cursor slotName work, (crew.executor world).worker ≠ .running cursor slotName work) :
    crew.step? world =
      (bare.step? (crew.executor world)).map (crew.withExecutor world) := by
  rw [step?_bare]
  simp only [Crew.step?, Crew.startPass, Crew.exit]
  cases working : (crew.executor world).worker with
  | waiting =>
      by_cases pending : (crew.executor world).isPending = true
      · simp only [if_pos pending, Option.map_some]
      · by_cases stopping : (crew.executor world).isStopping = true
        · simp only [if_neg pending, if_pos stopping, Option.map_some]
        · simp only [if_neg pending, if_neg stopping, Option.map_none]
  | scanning cursor =>
      rfl
  | running cursor slotName work =>
      exact absurd working (notRunning cursor slotName work)
  | exited =>
      rfl

/-- A crew that has nothing to do stays as it is, like its executor. -/
theorem Crew.getD_step?
    (crew : Crew World Work)
    (sameWorld : crew.withExecutor world (crew.executor world) = world)
    (stepped :
      crew.step? world = (bare.step? (crew.executor world)).map (crew.withExecutor world)) :
    (crew.step? world).getD world =
      crew.withExecutor world ((crew.executor world).move .work) := by
  rw [stepped, move]
  cases bare.step? (crew.executor world) with
  | none =>
      exact sameWorld.symm
  | some next =>
      rfl

/-- A crew does the work that it has taken, or it goes on as its executor alone does. -/
theorem Crew.step_cases
    (crew : Crew World Work)
    (world : World) :
    (∃ cursor slotName work,
        (crew.executor world).worker = .running cursor slotName work ∧
          crew.step? world = some (crew.finish cursor slotName work world)) ∨
      ((∀ cursor slotName work, (crew.executor world).worker ≠ .running cursor slotName work) ∧
        crew.step? world =
          (bare.step? (crew.executor world)).map (crew.withExecutor world)) := by
  by_cases running :
      ∃ cursor slotName work, (crew.executor world).worker = .running cursor slotName work
  · obtain ⟨cursor, slotName, work, running⟩ := running
    refine .inl ⟨cursor, slotName, work, running, ?_⟩
    simp only [Crew.step?, running]
  · have notRunning (cursor : Nat) (slotName : String) (work : Work) :
        (crew.executor world).worker ≠ .running cursor slotName work :=
      fun isRunning => running ⟨cursor, slotName, work, isRunning⟩
    exact .inr ⟨notRunning, crew.step?_of_notRunning notRunning⟩

theorem ends?_of_notRunning
    (notRunning : ∀ cursor slotName work, executor.worker ≠ .running cursor slotName work) :
    executor.ends? .work = none := by
  unfold ends?
  cases working : executor.worker with
  | running cursor slotName work =>
      exact absurd working (notRunning cursor slotName work)
  | _ =>
      rfl

end CrewStep

/-- A step of the worker: what it leads to, the work that it begins and the one that it ends. -/
inductive Worked (executor : Executor Work) :
    Executor Work → Option (Nat × Work) → Option (Nat × Work) → Prop where
  | rested
      (nothingToDo : bare.step? executor = none) :
      Worked executor executor none none
  | startedPass
      (waiting : executor.worker = .waiting)
      (pending : executor.isPending = true) :
      Worked executor { executor with isPending := false, worker := .scanning 0 } none none
  | exited
      (waiting : executor.worker = .waiting)
      (notPending : executor.isPending = false)
      (stopping : executor.isStopping = true) :
      Worked executor { executor with worker := .exited } none none
  | endedPass
      (cursor : Nat)
      (scanning : executor.worker = .scanning cursor)
      (pastEnd : executor.size ≤ cursor) :
      Worked executor { executor with worker := .waiting } none none
  | passedBy
      (cursor : Nat)
      (scanning : executor.worker = .scanning cursor)
      (inBounds : cursor < executor.size)
      (empty : executor.work? cursor = none) :
      Worked executor { executor with worker := .scanning (cursor + 1) } none none
  | took
      (cursor : Nat)
      (slotName : String)
      (work : Work)
      (scanning : executor.worker = .scanning cursor)
      (inBounds : cursor < executor.size)
      (queued : executor.work? cursor = some work) :
      Worked executor
        { executor.replace cursor none with worker := .running cursor slotName work }
        (some (cursor, work)) none
  | finished
      (cursor : Nat)
      (slotName : String)
      (work : Work)
      (running : executor.worker = .running cursor slotName work) :
      Worked executor { executor with worker := .scanning (cursor + 1) }
        none (some (cursor, work))

theorem worked_scan
    {cursor : Nat}
    (scanning : executor.worker = .scanning cursor) :
    Worked executor (executor.scan cursor) ((executor.work? cursor).map (cursor, ·)) none := by
  unfold scan
  cases present : executor.slots[cursor]? with
  | none =>
      simp only [work?, present, Option.bind_none, Option.map_none]
      exact .endedPass cursor scanning (List.getElem?_eq_none_iff.mp present)
  | some slot =>
      have inBounds : cursor < executor.size := (List.getElem?_eq_some_iff.mp present).1
      have found : executor.work? cursor = slot.work? := by
        simp only [work?, present, Option.bind_some]
      cases queued : slot.work? with
      | none =>
          rw [queued] at found
          simp only [found, queued, Option.map_none]
          exact .passedBy cursor scanning inBounds found
      | some work =>
          rw [queued] at found
          simp only [found, queued, Option.map_some]
          exact .took cursor slot.name work scanning inBounds found

theorem worked_move (executor : Executor Work) :
    Worked executor (executor.move .work) (executor.begins? .work) (executor.ends? .work) := by
  simp only [move, begins?, ends?, step?_bare]
  cases working : executor.worker with
  | waiting =>
      by_cases pending : executor.isPending = true
      · simp only [if_pos pending]
        exact .startedPass working pending
      · by_cases stopping : executor.isStopping = true
        · simp only [if_neg pending, if_pos stopping]
          exact .exited working (eq_false_of_ne_true pending) stopping
        · simp only [if_neg pending, if_neg stopping]
          refine .rested ?_
          simp only [step?_bare, working, if_neg pending, if_neg stopping]
  | scanning cursor =>
      exact worked_scan working
  | running cursor slotName work =>
      exact .finished cursor slotName work working
  | exited =>
      refine .rested ?_
      simp only [step?_bare, working]

section Step

variable {begun? ended? : Option (Nat × Work)}

theorem Worked.isStopping_eq
    (worked : Worked executor next begun? ended?) :
    next.isStopping = executor.isStopping := by
  cases worked <;> rfl

theorem Worked.size_eq
    (worked : Worked executor next begun? ended?) :
    next.size = executor.size := by
  cases worked with
  | took cursor slotName work scanning inBounds queued =>
      exact size_replace executor cursor none
  | _ =>
      rfl

/-- In a step of the worker a slot keeps its work, or the work is begun. -/
theorem Worked.keeps
    (worked : Worked executor next begun? ended?)
    (handle : Nat) :
    worksOf handle begun?.toList ++ (next.work? handle).toList =
      (executor.work? handle).toList := by
  cases worked with
  | took cursor slotName work scanning inBounds queued =>
      have workAfter := work?_replace executor cursor handle none
      change worksOf handle [(cursor, work)] ++
        ((executor.replace cursor none).work? handle).toList = _
      by_cases same : cursor = handle
      · subst same
        rw [workAfter, if_pos ⟨rfl, inBounds⟩, queued]
        simp [worksOf]
      · rw [workAfter, if_neg fun both => same both.1]
        simp [worksOf, same]
  | _ =>
      rfl

/-- The work in the worker's hand has been begun and has not been ended. -/
theorem Worked.inHand
    (worked : Worked executor next begun? ended?) :
    executor.inHand?.toList ++ begun?.toList = ended?.toList ++ next.inHand?.toList := by
  cases worked with
  | rested nothingToDo =>
      exact List.append_nil _
  | startedPass waiting pending =>
      simp [inHand?, waiting]
  | exited waiting notPending stopping =>
      simp [inHand?, waiting]
  | endedPass cursor scanning =>
      simp [inHand?, scanning]
  | passedBy cursor scanning =>
      simp [inHand?, scanning]
  | took cursor slotName work scanning inBounds queued =>
      simp [inHand?, scanning]
  | finished cursor slotName work running =>
      simp [inHand?, running]

end Step

theorem isAttended_move
    (isAttended : executor.IsAttended)
    (move : Move Work) :
    (executor.move move).IsAttended := by
  cases move with
  | create name =>
      intro handle queued
      rw [Executor.move, work?_create] at queued
      exact isAttended handle queued
  | put handle work =>
      rw [move_put]
      split
      · exact isAttended_of_isPending rfl
      · exact isAttended
  | stop =>
      exact isAttended
  | work =>
      rw [Executor.move]
      cases stepped : bare.step? executor with
      | none =>
          exact isAttended
      | some next =>
          exact
            bare.isAttended_of_step?_eq_some isAttended
              (fun _ _ _ running => ⟨isAttended, running⟩) stepped

theorem size_le_move
    (executor : Executor Work)
    (move : Move Work) :
    executor.size ≤ (executor.move move).size := by
  cases move with
  | create name =>
      simp [Executor.move, create, size]
  | put handle work =>
      rw [move_put]
      split
      · exact Nat.le_of_eq (size_replace executor handle (some work)).symm
      · exact Nat.le_refl _
  | stop =>
      exact Nat.le_refl _
  | work =>
      exact Nat.le_of_eq (worked_move executor).size_eq.symm

/-- Whatever is done to an executor from outside leaves the worker alone. -/
theorem worker_move
    {move : Move Work}
    (notWork : move ≠ .work) :
    (executor.move move).worker = executor.worker := by
  cases move with
  | create name =>
      rfl
  | put handle work =>
      rw [move_put]
      split
      · rfl
      · rfl
  | stop =>
      rfl
  | work =>
      exact absurd rfl notWork

/-- A slot that is not set in a move keeps its work, or the work is begun. -/
theorem work?_move_of_notSet
    {handle : Nat}
    {move : Move Work}
    (notSet : ∀ work, move ≠ .put handle work) :
    worksOf handle (executor.begins? move).toList ++ ((executor.move move).work? handle).toList =
      (executor.work? handle).toList := by
  cases move with
  | create name =>
      exact congrArg Option.toList (work?_create executor name handle)
  | put other work =>
      have different : other ≠ handle := by
        rintro rfl
        exact notSet work rfl
      rw [move_put]
      split
      · have workAfter := work?_replace executor other handle (some work)
        rw [if_neg fun both => different both.1] at workAfter
        exact congrArg Option.toList workAfter
      · rfl
  | stop =>
      rfl
  | work =>
      exact (worked_move executor).keeps handle

theorem inHand_move
    (executor : Executor Work)
    (move : Move Work) :
    executor.inHand?.toList ++ (executor.begins? move).toList =
      (executor.ends? move).toList ++ (executor.move move).inHand?.toList := by
  cases move with
  | work =>
      exact (worked_move executor).inHand
  | create name =>
      exact List.append_nil _
  | put handle work =>
      have sameWorker : (executor.move (.put handle work)).worker = executor.worker :=
        worker_move (by rintro ⟨⟩)
      have sameHand : (executor.move (.put handle work)).inHand? = executor.inHand? := by
        unfold inHand?
        rw [sameWorker]
      rw [sameHand]
      exact List.append_nil _
  | stop =>
      exact List.append_nil _

/-- Whatever every move keeps is kept in the whole course. -/
theorem run_invariant
    {motive : Executor Work → Prop}
    (kept : ∀ executor move, motive executor → motive (executor.move move))
    (atStart : motive executor)
    (moves : List (Move Work)) :
    motive (executor.run moves) :=
  List.foldlRecOn (motive := motive) moves move atStart fun between held move _ =>
    kept between move held

theorem isAttended_run (moves : List (Move Work)) : (run {} moves).IsAttended := by
  refine
    run_invariant (motive := IsAttended)
      (fun _ move isAttended => isAttended_move isAttended move) ?_ moves
  intro handle queued
  simp [work?] at queued

/-- The worker only does works of slots that exist. -/
theorem lt_size_of_running
    {moves : List (Move Work)}
    {cursor : Nat}
    {slotName : String}
    {work : Work}
    (running : (({} : Executor Work).run moves).worker = .running cursor slotName work) :
    cursor < (({} : Executor Work).run moves).size := by
  have invariant :
      ∀ cursor slotName work,
        (({} : Executor Work).run moves).worker = .running cursor slotName work →
          cursor < (({} : Executor Work).run moves).size := by
    refine
      run_invariant
        (motive := fun executor =>
          ∀ cursor slotName work,
            executor.worker = .running cursor slotName work →
              cursor < executor.size)
        ?_ (by rintro cursor slotName work ⟨⟩) moves
    intro executor move inBounds cursor slotName work running
    refine Nat.lt_of_lt_of_le ?_ (size_le_move executor move)
    by_cases isWork : move = .work
    · subst isWork
      have worked := worked_move executor
      generalize executor.move .work = next, executor.begins? .work = begun?,
        executor.ends? .work = ended? at worked running
      cases worked with
      | rested nothingToDo =>
          exact inBounds cursor slotName work running
      | took _ _ _ scanning isInBounds queued =>
          cases running
          exact isInBounds
      | _ =>
          cases running
    · rw [worker_move isWork] at running
      exact inBounds cursor slotName work running
  exact invariant cursor slotName work running

/--
As long as a slot is not set, it keeps its work or the work is begun: what it holds in the
end and what was begun from it are together what it held before.
-/
theorem work?_run_of_notSet
    {handle : Nat}
    {moves : List (Move Work)}
    (notSet : ∀ work, .put handle work ∉ moves) :
    worksOf handle (executor.begun moves) ++ ((executor.run moves).work? handle).toList =
      (executor.work? handle).toList := by
  induction moves generalizing executor with
  | nil =>
      rfl
  | cons first rest inductionHypothesis =>
      have notSetFirst (work : Work) : first ≠ .put handle work := by
        rintro rfl
        exact notSet work List.mem_cons_self
      have onwards :
          worksOf handle ((executor.move first).begun rest) ++
              (((executor.move first).run rest).work? handle).toList =
            ((executor.move first).work? handle).toList :=
        inductionHypothesis fun work member =>
          notSet work (List.mem_cons_of_mem first member)
      have split :
          worksOf handle (executor.begun (first :: rest)) =
            worksOf handle (executor.begins? first).toList ++
              worksOf handle ((executor.move first).begun rest) :=
        worksOf_append ..
      rw [split, List.append_assoc]
      exact (congrArg _ onwards).trans (work?_move_of_notSet notSetFirst)

/-- Works are begun and ended one after the other, and only the last may be unfinished. -/
theorem inHand_run
    (executor : Executor Work)
    (moves : List (Move Work)) :
    executor.inHand?.toList ++ executor.begun moves =
      executor.ended moves ++ (executor.run moves).inHand?.toList := by
  induction moves generalizing executor with
  | nil =>
      exact List.append_nil _
  | cons first rest inductionHypothesis =>
      calc
        executor.inHand?.toList ++ executor.begun (first :: rest) =
            executor.inHand?.toList ++ (executor.begins? first).toList ++
              (executor.move first).begun rest :=
          (List.append_assoc ..).symm
        _ =
            (executor.ends? first).toList ++
              ((executor.move first).inHand?.toList ++ (executor.move first).begun rest) := by
          rw [inHand_move, List.append_assoc]
        _ =
            executor.ended (first :: rest) ++
              (executor.run (first :: rest)).inHand?.toList := by
          rw [inductionHypothesis, ← List.append_assoc]
          rfl

end RefreshRate.Executor
