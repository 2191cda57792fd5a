import RefreshRate.Executor.Crew

namespace RefreshRate.Executor

/-!
# Queued work is attended to

A work that is queued either has raised the flag for another pass, or lies ahead of
the worker in the pass that is going on.  So when the worker has nothing left to do,
no slot holds a work.
-/

variable {Work : Type} {executor : Executor Work}

/-- The slots that the pass has yet to look at begin here. -/
def cursor? (executor : Executor Work) : Option Nat :=
  match executor.worker with
  | .scanning cursor =>
      some cursor
  | .running cursor _ _ =>
      some (cursor + 1)
  | .waiting | .exited =>
      none

section Cursor

variable {cursor : Nat} {slotName : String} {work : Work}

theorem cursor?_of_scanning
    (scanning : executor.worker = .scanning cursor) :
    executor.cursor? = some cursor := by
  simp only [cursor?, scanning]

theorem cursor?_of_running
    (running : executor.worker = .running cursor slotName work) :
    executor.cursor? = some (cursor + 1) := by
  simp only [cursor?, running]

theorem cursor?_of_waiting
    (waiting : executor.worker = .waiting) :
    executor.cursor? = none := by
  simp only [cursor?, waiting]

end Cursor

/-- Whatever is queued will be found. -/
def IsAttended (executor : Executor Work) : Prop :=
  ∀ handle,
    (executor.work? handle).isSome = true →
      executor.isPending = true ∨
        ∃ cursor, executor.cursor? = some cursor ∧ cursor ≤ handle

theorem lt_size_of_isSome_work?
    {handle : Nat}
    (queued : (executor.work? handle).isSome = true) :
    handle < executor.size := by
  obtain ⟨work, found⟩ := Option.isSome_iff_exists.mp queued
  obtain ⟨slot, present, -⟩ := Option.bind_eq_some_iff.mp found
  exact (List.getElem?_eq_some_iff.mp present).1

/-- The worker has not stopped, and it has not been told to. -/
structure IsServing (executor : Executor Work) : Prop where
  notStopping : executor.isStopping = false
  notExited : executor.worker ≠ .exited

/-- With the flag raised everything will be found. -/
theorem isAttended_of_isPending
    (pending : executor.isPending = true) :
    executor.IsAttended :=
  fun _ _ => .inl pending

/-- Looking at a slot leaves nothing behind. -/
theorem IsAttended.scan
    {cursor : Nat}
    (isAttended : executor.IsAttended)
    (scanning : executor.worker = .scanning cursor) :
    (executor.scan cursor).IsAttended := by
  intro handle queued
  rw [isPending_scan]
  have cursorIs := cursor?_of_scanning scanning
  unfold Executor.scan at queued ⊢
  split at queued
  · rename_i outside
    have inBounds : handle < executor.size := lt_size_of_isSome_work? queued
    rcases isAttended handle queued with pending | ⟨start, isCursor, ahead⟩
    · exact .inl pending
    · cases cursorIs.symm.trans isCursor
      have pastEnd : executor.size ≤ cursor := List.getElem?_eq_none_iff.mp outside
      exact absurd (Nat.lt_of_lt_of_le inBounds pastEnd) (Nat.not_lt.mpr ahead)
  · rename_i slot present
    split at queued
    · rename_i empty
      rcases isAttended handle queued with pending | ⟨start, isCursor, ahead⟩
      · exact .inl pending
      · cases cursorIs.symm.trans isCursor
        -- the slot that was looked at is empty, so what is queued lies further ahead
        refine .inr ⟨cursor + 1, rfl, Nat.lt_of_le_of_ne ahead ?_⟩
        rintro rfl
        have nothing : executor.work? cursor = none := by
          simp only [work?, present, Option.bind_some, empty]
        have stillQueued : (executor.work? cursor).isSome = true := queued
        rw [nothing] at stillQueued
        cases stillQueued
    · rename_i work found
      have other : (executor.replace cursor none).work? handle = executor.work? handle ∧
          handle ≠ cursor := by
        have inBounds : cursor < executor.size := (List.getElem?_eq_some_iff.mp present).1
        have queuedAfter : ((executor.replace cursor none).work? handle).isSome = true := queued
        rw [work?_replace] at queuedAfter ⊢
        split at queuedAfter
        · cases queuedAfter
        · rename_i notTaken
          refine ⟨if_neg notTaken, ?_⟩
          rintro rfl
          exact notTaken ⟨rfl, inBounds⟩
      have wasQueued : (executor.work? handle).isSome = true := other.1 ▸ queued
      rcases isAttended handle wasQueued with pending | ⟨start, isCursor, ahead⟩
      · exact .inl pending
      · cases cursorIs.symm.trans isCursor
        exact .inr ⟨cursor + 1, rfl, Nat.lt_of_le_of_ne ahead (Ne.symm other.2)⟩

theorem IsServing.scan
    (isServing : executor.IsServing)
    (cursor : Nat) :
    (executor.scan cursor).IsServing := by
  unfold Executor.scan
  split
  · exact ⟨isServing.notStopping, by simp⟩
  · split
    · exact ⟨isServing.notStopping, by simp⟩
    · exact ⟨isServing.notStopping, by simp⟩

namespace Crew

variable
  {World : Type}
  {crew : Crew World Work}
  {world next : World}

/-- A step of the worker leaves nothing behind, if the works leave nothing behind. -/
theorem isAttended_of_step?_eq_some
    (isAttended : (crew.executor world).IsAttended)
    (runAttended :
      ∀ cursor slotName work,
        (crew.executor world).worker = .running cursor slotName work →
          (crew.executor (crew.run cursor slotName work world)).IsAttended ∧
            (crew.executor (crew.run cursor slotName work world)).worker =
              .running cursor slotName work)
    (stepped : crew.step? world = some next) :
    (crew.executor next).IsAttended := by
  simp only [step?] at stepped
  split at stepped
  · split at stepped
    · cases stepped
      intro handle _
      simp only [startPass, crew.executor_withExecutor]
      exact .inr ⟨0, rfl, Nat.zero_le handle⟩
    · rename_i waiting notPending
      split at stepped
      · cases stepped
        intro handle queued
        simp only [exit, crew.executor_withExecutor] at queued ⊢
        rcases isAttended handle queued with pending | ⟨cursor, isCursor, -⟩
        · exact .inl pending
        · cases (cursor?_of_waiting waiting).symm.trans isCursor
      · cases stepped
  · rename_i cursor scanning
    cases stepped
    rw [crew.executor_withExecutor]
    exact isAttended.scan scanning
  · rename_i cursor slotName work running
    cases stepped
    obtain ⟨afterAttended, afterRunning⟩ := runAttended cursor slotName work running
    intro handle queued
    simp only [finish, crew.executor_withExecutor] at queued ⊢
    rcases afterAttended handle queued with pending | ⟨start, isCursor, ahead⟩
    · exact .inl pending
    · cases (cursor?_of_running afterRunning).symm.trans isCursor
      exact .inr ⟨cursor + 1, rfl, ahead⟩
  · cases stepped

/-- A worker that serves goes on serving, if no work tells it to stop. -/
theorem isServing_of_step?_eq_some
    (isServing : (crew.executor world).IsServing)
    (runNotStopping :
      ∀ cursor slotName work,
        (crew.executor (crew.run cursor slotName work world)).isStopping = false)
    (stepped : crew.step? world = some next) :
    (crew.executor next).IsServing := by
  simp only [step?] at stepped
  split at stepped
  · split at stepped
    · cases stepped
      simp only [startPass, crew.executor_withExecutor]
      exact ⟨isServing.notStopping, by simp⟩
    · split at stepped
      · rename_i stopping
        cases isServing.notStopping.symm.trans stopping
      · cases stepped
  · rename_i cursor scanning
    cases stepped
    rw [crew.executor_withExecutor]
    exact isServing.scan cursor
  · rename_i cursor slotName work running
    cases stepped
    simp only [finish, crew.executor_withExecutor]
    exact ⟨runNotStopping cursor slotName work, by simp⟩
  · cases stepped

theorem isRunning_eq_false_of_step?_eq_none
    (nothingToDo : crew.step? world = none) :
    (crew.executor world).isRunning = false := by
  unfold isRunning
  split
  · rename_i cursor slotName work running
    simp only [step?, running] at nothingToDo
    cases nothingToDo
  · rfl

/-- A worker that serves and has nothing to do has left nothing behind. -/
theorem work?_eq_none_of_step?_eq_none
    (isAttended : (crew.executor world).IsAttended)
    (isServing : (crew.executor world).IsServing)
    (nothingToDo : crew.step? world = none)
    (handle : Nat) :
    (crew.executor world).work? handle = none := by
  simp only [step?] at nothingToDo
  split at nothingToDo
  · rename_i waiting
    split at nothingToDo
    · cases nothingToDo
    · rename_i notPending
      cases found : (crew.executor world).work? handle with
      | none =>
          rfl
      | some work =>
          have queued : ((crew.executor world).work? handle).isSome = true :=
            Option.isSome_iff_exists.mpr ⟨work, found⟩
          rcases isAttended handle queued with pending | ⟨cursor, isCursor, -⟩
          · exact absurd pending notPending
          · cases (cursor?_of_waiting waiting).symm.trans isCursor
  · cases nothingToDo
  · cases nothingToDo
  · rename_i exited
    exact absurd exited isServing.notExited

end Crew

end RefreshRate.Executor
