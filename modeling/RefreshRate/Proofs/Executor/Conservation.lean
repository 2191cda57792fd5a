import RefreshRate.Proofs.Executor.Script

namespace RefreshRate.Executor

/-!
# Queued work is neither lost nor done twice

The worker lowers the flag when it starts a pass, and while the pass goes on slots are set
on both sides of it and new slots are added.  Still every work that a slot accepts is begun
once, or it is replaced before it is taken, and there is no way to come to rest without
having done all of it.
-/

variable
  {Work : Type}
  {executor : Executor Work}

/-- Whether a pass is going on. -/
def isPassing (executor : Executor Work) : Bool :=
  match executor.worker with
  | .scanning _ | .running .. =>
      true
  | .waiting | .exited =>
      false

/-- Who waits for an executor to come to rest waits on in this state. -/
def keepsWaiting (executor : Executor Work) : Bool :=
  (executor.isPending || executor.isPassing) && !executor.isStopping

/-- When there is neither a flag nor a pass, nothing is queued and nothing is being done. -/
theorem IsAttended.atRest
    (isAttended : executor.IsAttended)
    (notPending : executor.isPending = false)
    (notPassing : executor.isPassing = false) :
    (∀ handle, executor.work? handle = none) ∧ executor.inHand? = none := by
  have noCursor : executor.cursor? = none ∧ executor.inHand? = none := by
    unfold isPassing at notPassing
    unfold cursor? inHand?
    cases working : executor.worker with
    | waiting | exited =>
        exact ⟨rfl, rfl⟩
    | scanning cursor | running cursor slotName work =>
        simp only [working] at notPassing
        cases notPassing
  refine ⟨?_, noCursor.2⟩
  intro handle
  refine Option.not_isSome_iff_eq_none.mp ?_
  intro queued
  rcases isAttended handle queued with pending | ⟨cursor, isCursor, -⟩
  · cases notPending.symm.trans pending
  · cases noCursor.1.symm.trans isCursor

theorem not_keepsWaiting
    (returns : executor.keepsWaiting = false)
    (notStopping : executor.isStopping = false) :
    executor.isPending = false ∧ executor.isPassing = false := by
  simp only [keepsWaiting, notStopping, Bool.not_false, Bool.and_true] at returns
  exact Bool.or_eq_false_iff.mp returns

/-- A slot that is set holds the work, and the flag is raised; the worker goes on with its own. -/
theorem put_of_lt_size
    {handle : Nat}
    (known : handle < executor.size)
    (work : Work) :
    (executor.move (.put handle work)).work? handle = some work ∧
      (executor.move (.put handle work)).isPending = true ∧
        (executor.move (.put handle work)).worker = executor.worker := by
  rw [move_put, if_pos known]
  refine ⟨?_, rfl, rfl⟩
  exact (work?_replace executor handle handle (some work)).trans (if_pos ⟨rfl, known⟩)

/-- What a slot accepts is begun or still there, until the slot is set again. -/
theorem begun_or_kept_of_put
    {handle : Nat}
    {later : List (Move Work)}
    (known : handle < executor.size)
    (work : Work)
    (notSet : ∀ other, .put handle other ∉ later) :
    worksOf handle ((executor.move (.put handle work)).begun later) ++
        (((executor.move (.put handle work)).run later).work? handle).toList =
      [work] := by
  obtain ⟨holds, -, -⟩ := put_of_lt_size known work
  rw [work?_run_of_notSet notSet, holds]
  rfl

/--
A move adds to what a slot has accepted at least what it adds to what was begun there and
what is still there.
-/
theorem sublist_accepted_move
    {handle : Nat}
    {before taken : List Work}
    (sublist : (taken ++ (executor.work? handle).toList).Sublist before)
    (move : Move Work) :
    (taken ++ worksOf handle (executor.begins? move).toList ++
        ((executor.move move).work? handle).toList).Sublist
      (before ++ worksOf handle (executor.accepts? move).toList) := by
  by_cases isSet : ∃ work, move = .put handle work
  · obtain ⟨work, rfl⟩ := isSet
    by_cases known : handle < executor.size
    · obtain ⟨holds, -, -⟩ := put_of_lt_size known work
      have acceptsWork : worksOf handle (executor.accepts? (.put handle work)).toList = [work] := by
        simp [accepts?, known, worksOf]
      rw [holds, acceptsWork]
      have takenFirst : taken.Sublist before :=
        (List.sublist_append_left taken _).trans sublist
      change (taken ++ [] ++ [work]).Sublist (before ++ [work])
      rw [List.append_nil]
      exact takenFirst.append (List.Sublist.refl [work])
    · rw [move_put, if_neg known]
      change (taken ++ [] ++ (executor.work? handle).toList).Sublist _
      rw [List.append_nil]
      exact sublist.trans (List.sublist_append_left before _)
  · have notSet (work : Work) : move ≠ .put handle work :=
      fun isPut => isSet ⟨work, isPut⟩
    rw [List.append_assoc, work?_move_of_notSet notSet]
    exact sublist.trans (List.sublist_append_left before _)

/-- What was begun from a slot and what it holds was accepted there, and not used twice. -/
theorem sublist_accepted_run
    (executor : Executor Work)
    (handle : Nat)
    (moves : List (Move Work))
    {before taken : List Work}
    (sublist : (taken ++ (executor.work? handle).toList).Sublist before) :
    (taken ++ worksOf handle (executor.begun moves) ++
        ((executor.run moves).work? handle).toList).Sublist
      (before ++ worksOf handle (executor.accepted moves)) := by
  induction moves generalizing executor before taken with
  | nil =>
      simpa [begun, accepted, noted, worksOf, run] using sublist
  | cons first rest inductionHypothesis =>
      have onwards :=
        inductionHypothesis (executor.move first) (sublist_accepted_move sublist first)
      have begunSplit :
          worksOf handle (executor.begun (first :: rest)) =
            worksOf handle (executor.begins? first).toList ++
              worksOf handle ((executor.move first).begun rest) :=
        worksOf_append ..
      have acceptedSplit :
          worksOf handle (executor.accepted (first :: rest)) =
            worksOf handle (executor.accepts? first).toList ++
              worksOf handle ((executor.move first).accepted rest) :=
        worksOf_append ..
      rw [begunSplit, acceptedSplit, ← List.append_assoc, ← List.append_assoc]
      exact onwards

/-- From the start no work is begun more often than it was accepted. -/
theorem begun_sublist_accepted
    (moves : List (Move Work))
    (handle : Nat) :
    (worksOf handle (begun {} moves) ++ ((run {} moves).work? handle).toList).Sublist
      (worksOf handle (accepted {} moves)) := by
  have nothingYet : ([] ++ (({} : Executor Work).work? handle).toList).Sublist [] := by
    simp [work?]
  exact sublist_accepted_run {} handle moves nothingYet

/-- What has become of the works that were queued in a course from the start. -/
structure Accounted (moves : List (Move Work)) : Prop where
  /-- What is queued has the flag raised, or lies ahead of the worker in its pass. -/
  attended : (run {} moves).IsAttended
  /-- Nobody stops waiting before all is done, unless the executor is to stop. -/
  atRest :
    (run {} moves).keepsWaiting = false →
      (run {} moves).isStopping = false →
        (∀ handle, (run {} moves).work? handle = none) ∧
          (run {} moves).isPassing = false ∧ begun {} moves = ended {} moves
  /-- Until its slot is set again, a work is begun once and has left the slot, or it is there. -/
  begunOrKept :
    ∀ handle work later,
      handle < (run {} moves).size →
        (∀ other, .put handle other ∉ later) →
          worksOf handle (((run {} moves).move (.put handle work)).begun later) ++
              ((((run {} moves).move (.put handle work)).run later).work? handle).toList =
            [work]
  /-- No work is begun more often than it was accepted, what is queued included. -/
  begunOnce :
    ∀ handle,
      (worksOf handle (begun {} moves) ++ ((run {} moves).work? handle).toList).Sublist
        (worksOf handle (accepted {} moves))
  /-- What is begun is ended before anything else is begun. -/
  oneAtATime : begun {} moves = ended {} moves ++ (run {} moves).inHand?.toList
  /-- A slot whose work is being done takes the next one, and another pass will find it. -/
  takenWhileRunning :
    ∀ handle slotName current work,
      (run {} moves).worker = .running handle slotName current →
        accepts? (run {} moves) (.put handle work) = some (handle, work) ∧
          ((run {} moves).move (.put handle work)).work? handle = some work ∧
            ((run {} moves).move (.put handle work)).isPending = true ∧
              ((run {} moves).move (.put handle work)).worker = .running handle slotName current

/--
However callers, works and the worker come in between one another, no work is lost and none
is done twice.  A bench takes such a course too: in what is done to it each script makes its
moves, until it panics.
-/
theorem course_accounts_for_works
    {Job : Type} :
    (∀ moves : List (Move Job), Accounted moves) ∧
      ∀ operations : List Operation,
        Bench.Leads {} (movesOf {} operations) (({} : Bench).operateAll operations) := by
  refine ⟨?_, Bench.leads_operateAll {}⟩
  intro moves
  have isAttended := isAttended_run moves
  have oneAtATime := inHand_run ({} : Executor Job) moves
  constructor
  case attended =>
    exact isAttended
  case atRest =>
    intro returns notStopping
    obtain ⟨notPending, notPassing⟩ := not_keepsWaiting returns notStopping
    obtain ⟨nothingQueued, nothingInHand⟩ := isAttended.atRest notPending notPassing
    refine ⟨nothingQueued, notPassing, ?_⟩
    rw [nothingInHand] at oneAtATime
    exact oneAtATime.trans (List.append_nil _)
  case begunOrKept =>
    intro handle work later known notSet
    exact begun_or_kept_of_put known work notSet
  case begunOnce =>
    exact begun_sublist_accepted moves
  case oneAtATime =>
    exact oneAtATime
  case takenWhileRunning =>
    intro handle slotName current work running
    have known := lt_size_of_running running
    obtain ⟨holds, pending, sameWorker⟩ := put_of_lt_size known work
    exact ⟨if_pos known, holds, pending, sameWorker.trans running⟩

end RefreshRate.Executor
