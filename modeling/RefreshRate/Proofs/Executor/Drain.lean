import Mathlib.Data.List.TakeWhile
import Mathlib.Data.Nat.Find
import RefreshRate.Proofs.Executor.Conservation

namespace RefreshRate.Executor

/-!
# An executor that is told to stop does what is queued

The worker asks whether it is to stop only when no flag calls for another pass.  Until then
works are queued on both sides of it, also by the works that it does, and they are done
before it exits.  It does exit once nothing more is queued, and whatever it is given after
that it leaves alone.
-/

variable
  {Work : Type}
  {executor : Executor Work}

def Move.sets (handle : Nat) : Move Work → Bool
  | .put other _ =>
      decide (other = handle)
  | .create _ | .stop | .work =>
      false

/-- The moves before a slot is set again. -/
def untilSet
    (handle : Nat)
    (moves : List (Move Work)) :
    List (Move Work) :=
  moves.takeWhile fun move => !move.sets handle

/-- The worker has exited, all is done that was queued before, and nothing is done any more. -/
structure Drained (moves : List (Move Work)) : Prop where
  exited : (run {} moves).worker = .exited
  notPending : (run {} moves).isPending = false
  nothingQueued : ∀ handle, (run {} moves).work? handle = none
  allEnded : begun {} moves = ended {} moves
  /-- A work that was accepted is begun once, or it is not begun and something replaces it. -/
  begunOrReplaced :
    ∀ earlier handle work later,
      moves = earlier ++ .put handle work :: later →
        handle < (run {} earlier).size →
          worksOf handle (((run {} earlier).move (.put handle work)).begun
              (untilSet handle later)) = [work] ∨
            worksOf handle (((run {} earlier).move (.put handle work)).begun
                (untilSet handle later)) = [] ∧
              ∃ other, .put handle other ∈ later
  begunOnce :
    ∀ handle, (worksOf handle (begun {} moves)).Sublist (worksOf handle (accepted {} moves))
  begunNoMore : ∀ later, begun {} (moves ++ later) = begun {} moves

theorem not_mem_untilSet
    (handle : Nat)
    (moves : List (Move Work))
    (work : Work) :
    .put handle work ∉ untilSet handle moves := by
  intro member
  have notSet := List.mem_takeWhile_imp member
  simp [Move.sets] at notSet

theorem untilSet_eq_self
    {handle : Nat}
    {moves : List (Move Work)}
    (notSet : ∀ work, .put handle work ∉ moves) :
    untilSet handle moves = moves := by
  refine List.takeWhile_eq_self_iff.mpr ?_
  intro move member
  cases move with
  | put other work =>
      have different : other ≠ handle := by
        rintro rfl
        exact notSet work member
      simp [Move.sets, different]
  | _ =>
      rfl

/-- When its slot is empty in the end, a work that was accepted was begun or replaced. -/
theorem begun_or_replaced_of_put
    {handle : Nat}
    {later : List (Move Work)}
    (known : handle < executor.size)
    (work : Work)
    (emptied : ((executor.move (.put handle work)).run later).work? handle = none) :
    worksOf handle ((executor.move (.put handle work)).begun (untilSet handle later)) = [work] ∨
      worksOf handle ((executor.move (.put handle work)).begun (untilSet handle later)) = [] ∧
        ∃ other, .put handle other ∈ later := by
  have begunOrKept := begun_or_kept_of_put known work (not_mem_untilSet handle later)
  cases kept : ((executor.move (.put handle work)).run (untilSet handle later)).work? handle with
  | none =>
      rw [kept, Option.toList_none, List.append_nil] at begunOrKept
      exact .inl begunOrKept
  | some held =>
      rw [kept, Option.toList_some] at begunOrKept
      have notBegun :
          worksOf handle
              ((executor.move (.put handle work)).begun (untilSet handle later)) =
            [] := by
        rcases List.append_eq_singleton_iff.mp begunOrKept with ⟨notBegun, -⟩ | ⟨-, isEmpty⟩
        · exact notBegun
        · cases isEmpty
      refine .inr ⟨notBegun, ?_⟩
      -- a slot that is not set again would still hold the work
      by_contra neverSet
      have notSet (other : Work) : .put handle other ∉ later :=
        fun member => neverSet ⟨other, member⟩
      rw [untilSet_eq_self notSet, emptied] at kept
      cases kept

theorem exited_move
    (exited : executor.worker = .exited)
    (move : Move Work) :
    (executor.move move).worker = .exited ∧
      executor.begins? move = none ∧ executor.ends? move = none := by
  cases move with
  | work =>
      simp only [Executor.move, begins?, ends?, step?_bare, exited, Option.getD_none, and_self]
  | put handle work =>
      exact ⟨(worker_move (by rintro ⟨⟩)).trans exited, rfl, rfl⟩
  | create name | stop =>
      exact ⟨exited, rfl, rfl⟩

/-- After the exit nothing is begun any more, whatever is accepted. -/
theorem exited_run
    (exited : executor.worker = .exited)
    (moves : List (Move Work)) :
    (executor.run moves).worker = .exited ∧
      executor.begun moves = [] ∧ executor.ended moves = [] := by
  induction moves generalizing executor with
  | nil =>
      exact ⟨exited, rfl, rfl⟩
  | cons first rest inductionHypothesis =>
      obtain ⟨stillExited, beginsNothing, endsNothing⟩ := exited_move exited first
      obtain ⟨exitedAfter, begunNothing, endedNothing⟩ := inductionHypothesis stillExited
      refine ⟨exitedAfter, ?_, ?_⟩
      · rw [begun, noted, beginsNothing]
        exact begunNothing
      · rw [ended, noted, endsNothing]
        exact endedNothing

/-- A worker that has exited has done so in one of its moves. -/
theorem exists_exit_of_run
    {moves : List (Move Work)}
    (notYet : executor.worker ≠ .exited)
    (exited : (executor.run moves).worker = .exited) :
    ∃ earlier last later,
      moves = earlier ++ last :: later ∧
        (executor.run earlier).worker ≠ .exited ∧
          (executor.run (earlier ++ [last])).worker = .exited := by
  induction moves generalizing executor with
  | nil =>
      exact absurd exited notYet
  | cons first rest inductionHypothesis =>
      by_cases exitsFirst : (executor.move first).worker = .exited
      · exact ⟨[], first, rest, rfl, notYet, exitsFirst⟩
      · obtain ⟨earlier, last, later, rfl, stillNotYet, exits⟩ :=
          inductionHypothesis exitsFirst exited
        exact ⟨first :: earlier, last, later, rfl, stillNotYet, exits⟩

/-- The worker exits where no pass is called for and none is going on. -/
theorem exits_of_move
    {move : Move Work}
    (notYet : executor.worker ≠ .exited)
    (exits : (executor.move move).worker = .exited) :
    executor.isPending = false ∧
      executor.isPassing = false ∧ executor.move move = { executor with worker := .exited } := by
  by_cases isWork : move = .work
  · subst isWork
    have worked := worked_move executor
    generalize executor.move .work = next, executor.begins? .work = begun?,
      executor.ends? .work = ended? at worked exits
    cases worked with
    | rested nothingToDo =>
        exact absurd exits notYet
    | exited waiting notPending stopping =>
        exact ⟨notPending, by simp only [isPassing, waiting], rfl⟩
    | _ =>
        cases exits
  · exact absurd ((worker_move isWork).symm.trans exits) notYet

theorem drained_of_exits
    {moves : List (Move Work)}
    {last : Move Work}
    (notYet : (run {} moves).worker ≠ .exited)
    (exits : (run {} (moves ++ [last])).worker = .exited) :
    Drained (moves ++ [last]) := by
  have runIs : run {} (moves ++ [last]) = (run {} moves).move last := run_append {} moves [last]
  obtain ⟨notPending, notPassing, exit⟩ := exits_of_move notYet (runIs ▸ exits)
  obtain ⟨nothingQueued, -⟩ := (isAttended_run moves).atRest notPending notPassing
  have emptied (handle : Nat) : (run {} (moves ++ [last])).work? handle = none := by
    rw [runIs, exit]
    exact nothingQueued handle
  constructor
  case exited =>
    exact exits
  case notPending =>
    rw [runIs, exit]
    exact notPending
  case nothingQueued =>
    exact emptied
  case allEnded =>
    have oneAtATime := inHand_run ({} : Executor Work) (moves ++ [last])
    have nothingInHand : (run {} (moves ++ [last])).inHand? = none := by
      simp only [inHand?, exits]
    rw [nothingInHand] at oneAtATime
    exact oneAtATime.trans (List.append_nil _)
  case begunOrReplaced =>
    intro earlier handle work later split known
    refine begun_or_replaced_of_put known work ?_
    rw [← emptied handle, split, run_append]
    rfl
  case begunOnce =>
    intro handle
    exact (List.sublist_append_left _ _).trans (begun_sublist_accepted (moves ++ [last]) handle)
  case begunNoMore =>
    intro later
    obtain ⟨-, begunNothing, -⟩ := exited_run exits later
    rw [begun, noted_append]
    exact (congrArg _ begunNothing).trans (List.append_nil _)

theorem isStopping_move
    (stopping : executor.isStopping = true)
    (move : Move Work) :
    (executor.move move).isStopping = true := by
  cases move with
  | create name =>
      exact stopping
  | put handle work =>
      rw [move_put]
      split
      · exact stopping
      · exact stopping
  | stop =>
      rfl
  | work =>
      exact (worked_move executor).isStopping_eq.trans stopping

/-- An executor that is to stop is changed only by its worker and by what is queued. -/
theorem move_of_stopping
    {move : Move Work}
    (stopping : executor.isStopping = true)
    (notWork : move ≠ .work)
    (notAct : move.isAct = false) :
    executor.move move = executor := by
  cases move with
  | stop =>
      change { executor with isStopping := true } = executor
      rw [← stopping]
  | work =>
      exact absurd rfl notWork
  | create name | put handle work =>
      cases notAct

theorem isStopping_run
    (stopping : executor.isStopping = true)
    (moves : List (Move Work)) :
    (executor.run moves).isStopping = true :=
  run_invariant (motive := fun executor => executor.isStopping = true)
    (fun _ move stopping => isStopping_move stopping move) stopping moves

theorem isServing_move
    {move : Move Work}
    (isServing : executor.IsServing)
    (notStop : move ≠ .stop) :
    (executor.move move).IsServing := by
  cases move with
  | create name =>
      exact ⟨isServing.notStopping, isServing.notExited⟩
  | put handle work =>
      rw [move_put]
      split
      · exact ⟨isServing.notStopping, isServing.notExited⟩
      · exact isServing
  | stop =>
      exact absurd rfl notStop
  | work =>
      rw [Executor.move]
      cases stepped : bare.step? executor with
      | none =>
          exact isServing
      | some next =>
          exact
            bare.isServing_of_step?_eq_some isServing
              (fun _ _ _ => isServing.notStopping) stepped

/-- An executor that is not told to stop serves on. -/
theorem isServing_run
    {moves : List (Move Work)}
    (isServing : executor.IsServing)
    (noStop : .stop ∉ moves) :
    (executor.run moves).IsServing := by
  induction moves generalizing executor with
  | nil =>
      exact isServing
  | cons first rest inductionHypothesis =>
      have notStop : first ≠ .stop := by
        rintro rfl
        exact noStop List.mem_cons_self
      exact
        inductionHypothesis (isServing_move isServing notStop) fun member =>
          noStop (List.mem_cons_of_mem first member)

namespace Crew

variable
  {World : Type}
  {crew : Crew World Work}
  {world next : World}

theorem not_exited_of_step?_eq_some
    (stepped : crew.step? world = some next) :
    (crew.executor world).worker ≠ .exited := by
  intro exited
  simp only [step?, exited] at stepped
  cases stepped

/-- A worker that is to stop and has nothing to do has stopped. -/
theorem exited_of_step?_eq_none
    (stopping : (crew.executor world).isStopping = true)
    (nothingToDo : crew.step? world = none) :
    (crew.executor world).worker = .exited := by
  cases working : (crew.executor world).worker with
  | waiting =>
      simp only [step?, working, if_pos stopping] at nothingToDo
      split at nothingToDo
      · cases nothingToDo
      · cases nothingToDo
  | scanning cursor | running cursor slotName work =>
      simp only [step?, working] at nothingToDo
      cases nothingToDo
  | exited =>
      rfl

end Crew

section Course

variable {course : Nat → Move Work}

/-- The first moves of a course that goes on forever. -/
def upTo
    (course : Nat → Move Work)
    (count : Nat) :
    List (Move Work) :=
  (List.range count).map course

theorem upTo_succ
    (course : Nat → Move Work)
    (count : Nat) :
    upTo course (count + 1) = upTo course count ++ [course count] := by
  simp only [upTo, List.range_succ, List.map_append, List.map_cons, List.map_nil]

theorem run_upTo_succ
    (course : Nat → Move Work)
    (count : Nat) :
    run {} (upTo course (count + 1)) = (run {} (upTo course count)).move (course count) := by
  rw [upTo_succ, run_append]
  rfl

theorem isStopping_upTo
    {stop count : Nat}
    (isStop : course stop = .stop)
    (isLater : stop < count) :
    (run {} (upTo course count)).isStopping = true := by
  induction count, isLater using Nat.le_induction with
  | base =>
      rw [Nat.succ_eq_add_one, run_upTo_succ, isStop]
      rfl
  | succ count isLater inductionHypothesis =>
      rw [run_upTo_succ]
      exact isStopping_move inductionHypothesis (course count)

/-- Nothing changes before the worker goes on, if nothing is queued. -/
theorem run_upTo_of_idle
    {first next : Nat}
    (stopping : (run {} (upTo course first)).isStopping = true)
    (isLater : first ≤ next)
    (idle :
      ∀ count, first ≤ count → count < next →
        course count ≠ .work ∧ (course count).isAct = false) :
    run {} (upTo course next) = run {} (upTo course first) := by
  induction next, isLater using Nat.le_induction with
  | base =>
      rfl
  | succ next isLater inductionHypothesis =>
      have same :=
        inductionHypothesis fun count afterFirst beforeNext =>
          idle count afterFirst (Nat.lt_succ_of_lt beforeNext)
      obtain ⟨notWork, notAct⟩ := idle next isLater (Nat.lt_succ_self next)
      rw [run_upTo_succ, same]
      exact move_of_stopping stopping notWork notAct

theorem exists_first_work
    (worksOn : ∀ count, ∃ next, count ≤ next ∧ course next = .work)
    (first : Nat) :
    ∃ next,
      first ≤ next ∧ course next = .work ∧
        ∀ count, first ≤ count → count < next → course count ≠ .work := by
  classical
  obtain ⟨isLater, isWork⟩ := Nat.find_spec (worksOn first)
  refine ⟨Nat.find (worksOn first), isLater, isWork, ?_⟩
  intro count afterFirst beforeNext isWork
  exact Nat.find_min (worksOn first) beforeNext ⟨afterFirst, isWork⟩

/-- With nothing more to be queued every step of the worker brings it nearer to its exit. -/
theorem exists_exited_of_quiet
    {first : Nat}
    (stopping : (run {} (upTo course first)).isStopping = true)
    (worksOn : ∀ count, ∃ next, count ≤ next ∧ course next = .work)
    (quiet :
      ∀ count, first ≤ count →
        (run {} (upTo course count)).worker = .exited ∨ (course count).isAct = false) :
    ∃ count, (run {} (upTo course count)).worker = .exited := by
  by_contra never
  have notExited (count : Nat) : (run {} (upTo course count)).worker ≠ .exited :=
    fun exited => never ⟨count, exited⟩
  obtain ⟨next, isLater, isWork, isFirst⟩ := exists_first_work worksOn first
  have same : run {} (upTo course next) = run {} (upTo course first) := by
    refine run_upTo_of_idle stopping isLater ?_
    intro count afterFirst beforeNext
    exact
      ⟨isFirst count afterFirst beforeNext,
        (quiet count afterFirst).resolve_left (notExited count)⟩
  cases stepped : bare.step? (run {} (upTo course first)) with
  | none =>
      exact notExited first (bare.exited_of_step?_eq_none stopping stepped)
  | some later =>
      have laterIs : run {} (upTo course (next + 1)) = later := by
        rw [run_upTo_succ, same, isWork, move, stepped]
        rfl
      have lighter := bare.measure_lt_of_step?_eq_some stepped
      have stillStopping : (run {} (upTo course (next + 1))).isStopping = true := by
        rw [run_upTo_succ, same]
        exact isStopping_move stopping (course next)
      exact
        never
          (exists_exited_of_quiet stillStopping worksOn fun count isAfter =>
            quiet count (isLater.trans (Nat.le_of_succ_le isAfter)))
termination_by bare.measure (run {} (upTo course first))
decreasing_by
  rw [laterIs]
  exact lighter

/--
An executor that is told to stop has drained when its worker exits, and the worker does exit
if it goes on working and if not without end something is queued.
-/
theorem exists_drained
    (isStopped : ∃ stop, course stop = .stop)
    (worksOn : ∀ count, ∃ next, count ≤ next ∧ course next = .work)
    (queuesFinitely :
      ∃ first, ∀ count, first ≤ count →
        (run {} (upTo course count)).worker = .exited ∨ (course count).isAct = false) :
    ∃ exit,
      (∀ count, count ≤ exit → (run {} (upTo course count)).worker ≠ .exited) ∧
        Drained (upTo course (exit + 1)) := by
  obtain ⟨stop, isStop⟩ := isStopped
  obtain ⟨first, quiet⟩ := queuesFinitely
  have stopping : (run {} (upTo course (max first (stop + 1)))).isStopping = true :=
    isStopping_upTo isStop (le_max_right first (stop + 1))
  have exits : ∃ count, (run {} (upTo course count)).worker = .exited :=
    exists_exited_of_quiet stopping worksOn fun count isAfter =>
      quiet count ((le_max_left first (stop + 1)).trans isAfter)
  classical
  have exited := Nat.find_spec exits
  have notAtOnce : Nat.find exits ≠ 0 := by
    intro atOnce
    rw [atOnce] at exited
    cases exited
  obtain ⟨exit, isExit⟩ := Nat.exists_eq_succ_of_ne_zero notAtOnce
  have notExited (count : Nat) (before : count ≤ exit) :
      (run {} (upTo course count)).worker ≠ .exited :=
    Nat.find_min exits (isExit ▸ Nat.lt_succ_of_le before)
  rw [isExit, Nat.succ_eq_add_one, upTo_succ] at exited
  refine ⟨exit, notExited, ?_⟩
  rw [upTo_succ]
  exact drained_of_exits (notExited exit (Nat.le_refl exit)) exited

end Course

end RefreshRate.Executor
