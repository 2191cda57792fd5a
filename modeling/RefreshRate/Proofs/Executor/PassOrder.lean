import Mathlib.Data.List.Basic
import Mathlib.Data.Nat.Init
import RefreshRate.Proofs.Executor.Drain

namespace RefreshRate.Executor

/-!
# The order of works in passes

A pass looks at every slot once, in ascending order.  So what is queued while a work is
being done has its turn in the same pass if its slot comes after that of the work, and else
in the next one.  Until then the slot may be set again, and the last work that it has
accepted is the one that is begun.
-/

variable
  {Work : Type}
  {executor next : Executor Work}
  {handle : Nat}

/-- Whether the worker starts a pass in a move. -/
def startsPass (executor : Executor Work) : Move Work → Bool
  | .work =>
      match executor.worker with
      | .waiting =>
          executor.isPending
      | _ =>
          false
  | .create _ | .put .. | .stop =>
      false

/-- The number of passes that are started in a course. -/
def passes (executor : Executor Work) : List (Move Work) → Nat
  | [] =>
      0
  | first :: rest =>
      (executor.startsPass first).toNat + (executor.move first).passes rest

/-- A work that is begun, its slot, and the number of the pass in which it is begun. -/
structure Turn (Work : Type) where
  pass : Nat
  handle : Nat
  work : Work

/-- By pass first, and in a pass by slot. -/
def Turn.Before (first second : Turn Work) : Prop :=
  first.pass < second.pass ∨ first.pass = second.pass ∧ first.handle < second.handle

/-- The works that are begun in a course, of which the first moves belong to a given pass. -/
def turns
    (executor : Executor Work)
    (pass : Nat) :
    List (Move Work) → List (Turn Work)
  | [] =>
      []
  | first :: rest =>
      (executor.begins? first).toList.map (fun job => ⟨pass, job.1, job.2⟩) ++
        (executor.move first).turns (pass + (executor.startsPass first).toNat) rest

theorem startsPass_of_ne_work
    {move : Move Work}
    (notWork : move ≠ .work) :
    executor.startsPass move = false := by
  cases move with
  | work =>
      exact absurd rfl notWork
  | _ =>
      rfl

theorem startsPass_work_iff :
    executor.startsPass .work = true ↔
      executor.worker = .waiting ∧ executor.isPending = true := by
  unfold startsPass
  cases working : executor.worker with
  | waiting =>
      exact (and_iff_right rfl).symm
  | _ =>
      simp

/-- In the middle of a pass no other one is started. -/
theorem startsPass_of_isCursor
    {cursor : Nat}
    (isCursor : executor.cursor? = some cursor)
    (move : Move Work) :
    executor.startsPass move = false := by
  cases move with
  | work =>
      refine Bool.eq_false_iff.mpr fun starts => ?_
      cases (cursor?_of_waiting (startsPass_work_iff.mp starts).1).symm.trans isCursor
  | _ =>
      rfl

theorem startsPass_of_rested
    (nothingToDo : bare.step? executor = none) :
    executor.startsPass .work = false := by
  refine Bool.eq_false_iff.mpr fun starts => ?_
  obtain ⟨waiting, pending⟩ := startsPass_work_iff.mp starts
  simp only [step?_bare, waiting, if_pos pending] at nothingToDo
  cases nothingToDo

theorem cursor?_move
    {move : Move Work}
    (notWork : move ≠ .work) :
    (executor.move move).cursor? = executor.cursor? := by
  unfold cursor?
  rw [worker_move notWork]

theorem begins?_of_ne_work
    {move : Move Work}
    (notWork : move ≠ .work) :
    executor.begins? move = none := by
  cases move with
  | work =>
      exact absurd rfl notWork
  | _ =>
      rfl

theorem of_begins?_eq_some
    {move : Move Work}
    {work : Work}
    (begins : executor.begins? move = some (handle, work)) :
    executor.cursor? = some handle ∧ executor.work? handle = some work := by
  cases move with
  | work =>
      have worked := worked_move executor
      rw [begins] at worked
      generalize executor.move .work = next, executor.ends? .work = ended? at worked
      cases worked with
      | took _ slotName _ scanning inBounds queued =>
          exact ⟨cursor?_of_scanning scanning, queued⟩
  | _ =>
      cases begins

/-- How far a move brings the worker: to the start of a pass, onwards, or to a work. -/
inductive Advanced (executor : Executor Work) (move : Move Work) : Prop where
  | startedPass
      (starts : executor.startsPass move = true)
      (beginsNothing : executor.begins? move = none)
  | wentOn
      (startsNone : executor.startsPass move = false)
      (beginsNothing : executor.begins? move = none)
      (onwards :
        ∀ later,
          (executor.move move).cursor? = some later →
            ∃ cursor, executor.cursor? = some cursor ∧ cursor ≤ later)
  | took
      (cursor : Nat)
      (work : Work)
      (startsNone : executor.startsPass move = false)
      (begins : executor.begins? move = some (cursor, work))
      (isCursor : executor.cursor? = some cursor)
      (nextCursor : (executor.move move).cursor? = some (cursor + 1))

theorem advanced_move
    (executor : Executor Work)
    (move : Move Work) :
    Advanced executor move := by
  by_cases isWork : move = .work
  · subst isWork
    have worked := worked_move executor
    generalize moved : executor.move .work = next, beginsIs : executor.begins? .work = begun?,
      executor.ends? .work = ended? at worked
    cases worked with
    | rested nothingToDo =>
        refine .wentOn (startsPass_of_rested nothingToDo) beginsIs fun later isCursor => ?_
        rw [moved] at isCursor
        exact ⟨later, isCursor, Nat.le_refl later⟩
    | startedPass waiting pending =>
        exact .startedPass (startsPass_work_iff.mpr ⟨waiting, pending⟩) beginsIs
    | exited waiting notPending =>
        have startsNone : executor.startsPass .work = false := by
          refine Bool.eq_false_iff.mpr fun starts => ?_
          cases notPending.symm.trans (startsPass_work_iff.mp starts).2
        refine .wentOn startsNone beginsIs fun later isCursor => ?_
        rw [moved] at isCursor
        cases isCursor
    | endedPass cursor scanning =>
        have wasCursor := cursor?_of_scanning scanning
        refine .wentOn (startsPass_of_isCursor wasCursor _) beginsIs fun later isCursor => ?_
        rw [moved] at isCursor
        cases isCursor
    | passedBy cursor scanning =>
        have wasCursor := cursor?_of_scanning scanning
        refine .wentOn (startsPass_of_isCursor wasCursor _) beginsIs fun later isCursor => ?_
        rw [moved] at isCursor
        cases isCursor
        exact ⟨cursor, wasCursor, Nat.le_succ cursor⟩
    | took cursor slotName work scanning =>
        have wasCursor := cursor?_of_scanning scanning
        refine .took cursor work (startsPass_of_isCursor wasCursor _) beginsIs wasCursor ?_
        rw [moved]
        rfl
    | finished cursor slotName work running =>
        have wasCursor := cursor?_of_running running
        refine .wentOn (startsPass_of_isCursor wasCursor _) beginsIs fun later isCursor => ?_
        rw [moved] at isCursor
        exact ⟨later, wasCursor.trans isCursor, Nat.le_refl later⟩
  · refine .wentOn (startsPass_of_ne_work isWork) (begins?_of_ne_work isWork) ?_
    intro later isCursor
    rw [cursor?_move isWork] at isCursor
    exact ⟨later, isCursor, Nat.le_refl later⟩

/-- A work that is still to be begun has its turn in a later pass, or ahead of the worker. -/
def IsAhead
    (executor : Executor Work)
    (pass : Nat)
    (turn : Turn Work) :
    Prop :=
  pass < turn.pass ∨
    pass = turn.pass ∧ ∃ cursor, executor.cursor? = some cursor ∧ cursor ≤ turn.handle

theorem isAhead_of_move
    {pass : Nat}
    {move : Move Work}
    {turn : Turn Work}
    (isAhead :
      (executor.move move).IsAhead (pass + (executor.startsPass move).toNat) turn) :
    executor.IsAhead pass turn := by
  unfold IsAhead at isAhead ⊢
  cases advanced_move executor move with
  | startedPass starts =>
      rw [starts, Bool.toNat_true] at isAhead
      omega
  | wentOn startsNone beginsNothing onwards =>
      rw [startsNone, Bool.toNat_false, Nat.add_zero] at isAhead
      rcases isAhead with isLater | ⟨samePass, later, isCursor, ahead⟩
      · exact .inl isLater
      · obtain ⟨cursor, wasCursor, notBack⟩ := onwards later isCursor
        exact .inr ⟨samePass, cursor, wasCursor, Nat.le_trans notBack ahead⟩
  | took cursor work startsNone begins wasCursor isCursor =>
      rw [startsNone, Bool.toNat_false, Nat.add_zero, isCursor] at isAhead
      rcases isAhead with isLater | ⟨samePass, later, ⟨⟩, ahead⟩
      · exact .inl isLater
      · exact .inr ⟨samePass, cursor, wasCursor, Nat.le_of_succ_le ahead⟩

/-- Whatever is begun later was ahead of the worker. -/
theorem isAhead_of_mem_turns
    {moves : List (Move Work)}
    {pass : Nat}
    {turn : Turn Work}
    (member : turn ∈ executor.turns pass moves) :
    executor.IsAhead pass turn := by
  induction moves generalizing executor pass with
  | nil =>
      cases member
  | cons first rest inductionHypothesis =>
      rcases List.mem_append.mp member with isFirst | isLater
      · cases advanced_move executor first with
        | startedPass _ beginsNothing | wentOn _ beginsNothing =>
            rw [beginsNothing] at isFirst
            cases isFirst
        | took cursor work startsNone begins wasCursor isCursor =>
            rw [begins] at isFirst
            cases List.mem_singleton.mp isFirst
            exact .inr ⟨rfl, cursor, wasCursor, Nat.le_refl cursor⟩
      · exact isAhead_of_move (inductionHypothesis isLater)

/-- Works are begun pass by pass, and in a pass by slot, each slot at most once. -/
theorem pairwise_turns
    (executor : Executor Work)
    (pass : Nat)
    (moves : List (Move Work)) :
    (executor.turns pass moves).Pairwise Turn.Before := by
  induction moves generalizing executor pass with
  | nil =>
      exact .nil
  | cons first rest inductionHypothesis =>
      have restOrdered :=
        inductionHypothesis (executor.move first) (pass + (executor.startsPass first).toNat)
      rw [turns]
      cases advanced_move executor first with
      | startedPass _ beginsNothing | wentOn _ beginsNothing =>
          rw [beginsNothing]
          exact restOrdered
      | took cursor work startsNone begins wasCursor isCursor =>
          rw [begins]
          refine List.pairwise_cons.mpr ⟨fun later member => ?_, restOrdered⟩
          have isAhead := isAhead_of_mem_turns member
          rw [startsNone, Bool.toNat_false, Nat.add_zero, IsAhead, isCursor] at isAhead
          rcases isAhead with isLater | ⟨samePass, next, ⟨⟩, ahead⟩
          · exact .inl isLater
          · exact .inr ⟨samePass, ahead⟩

theorem map_turns
    (executor : Executor Work)
    (pass : Nat)
    (moves : List (Move Work)) :
    (executor.turns pass moves).map (fun turn => (turn.handle, turn.work)) =
      executor.begun moves := by
  induction moves generalizing executor pass with
  | nil =>
      rfl
  | cons first rest inductionHypothesis =>
      rw [turns, List.map_append, inductionHypothesis, List.map_map]
      congr 1
      exact List.map_id _

/-- The pass of a turn is the number of passes that were started before it. -/
theorem mem_turns_iff
    {moves : List (Move Work)}
    {pass : Nat}
    {turn : Turn Work} :
    turn ∈ executor.turns pass moves ↔
      ∃ before move after,
        moves = before ++ move :: after ∧
          pass + executor.passes before = turn.pass ∧
            (executor.run before).begins? move = some (turn.handle, turn.work) := by
  induction moves generalizing executor pass with
  | nil =>
      simp [turns]
  | cons first rest inductionHypothesis =>
      rw [turns, List.mem_append, inductionHypothesis, List.mem_map]
      constructor
      · rintro (⟨⟨handle, work⟩, isBegun, rfl⟩ | ⟨before, move, after, rfl, passIs, begins⟩)
        · exact ⟨[], first, rest, rfl, rfl, Option.mem_toList.mp isBegun⟩
        · refine ⟨first :: before, move, after, rfl, ?_, begins⟩
          rw [passes, ← passIs, Nat.add_assoc]
      · rintro ⟨before, move, after, split, passIs, begins⟩
        cases before with
        | nil =>
            cases split
            cases turn
            cases passIs
            exact .inl ⟨_, Option.mem_toList.mpr begins, rfl⟩
        | cons _ before =>
            cases split
            refine .inr ⟨before, move, after, rfl, ?_, begins⟩
            rw [← passIs, passes, Nat.add_assoc]

/-- Where no work is taken from a slot it holds what it accepts, or it goes on as it was. -/
theorem work?_move_of_notBegun
    {move : Move Work}
    (notBegun : worksOf handle (executor.begins? move).toList = []) :
    (executor.move move).work? handle =
      (worksOf handle (executor.accepts? move).toList).getLast?.or (executor.work? handle) := by
  by_cases isSet : ∃ work, move = .put handle work
  · obtain ⟨work, rfl⟩ := isSet
    by_cases known : handle < executor.size
    · obtain ⟨holds, -, -⟩ := put_of_lt_size known work
      rw [holds]
      simp [accepts?, known, worksOf]
    · rw [move_put, if_neg known]
      simp [accepts?, known, worksOf]
  · have notSet (work : Work) : move ≠ .put handle work :=
      fun isPut => isSet ⟨work, isPut⟩
    have kept :
        worksOf handle (executor.begins? move).toList ++
            ((executor.move move).work? handle).toList =
          (executor.work? handle).toList :=
      work?_move_of_notSet notSet
    rw [notBegun, List.nil_append] at kept
    have acceptsNothing : worksOf handle (executor.accepts? move).toList = [] := by
      cases move with
      | put other work =>
          have different : other ≠ handle := by
            rintro rfl
            exact notSet work rfl
          simp only [accepts?]
          split
          · simp [worksOf, different]
          · rfl
      | _ =>
          rfl
    have sameWork : (executor.move move).work? handle = executor.work? handle := by
      have sameHead := congrArg List.head? kept
      rwa [Option.head?_toList, Option.head?_toList] at sameHead
    rw [sameWork, acceptsNothing]
    rfl

theorem worksOf_begun_cons
    (executor : Executor Work)
    (handle : Nat)
    (first : Move Work)
    (rest : List (Move Work)) :
    worksOf handle (executor.begun (first :: rest)) =
      worksOf handle (executor.begins? first).toList ++
        worksOf handle ((executor.move first).begun rest) :=
  worksOf_append ..

theorem worksOf_accepted_cons
    (executor : Executor Work)
    (handle : Nat)
    (first : Move Work)
    (rest : List (Move Work)) :
    worksOf handle (executor.accepted (first :: rest)) =
      worksOf handle (executor.accepts? first).toList ++
        worksOf handle ((executor.move first).accepted rest) :=
  worksOf_append ..

/-- As long as no work is taken from a slot it holds the last one that it has accepted. -/
theorem work?_run_of_notBegun
    {moves : List (Move Work)}
    (notBegun : worksOf handle (executor.begun moves) = []) :
    (executor.run moves).work? handle =
      (worksOf handle (executor.accepted moves)).getLast?.or (executor.work? handle) := by
  induction moves generalizing executor with
  | nil =>
      rfl
  | cons first rest inductionHypothesis =>
      rw [worksOf_begun_cons] at notBegun
      obtain ⟨notFirst, notLater⟩ := List.append_eq_nil_iff.mp notBegun
      have onwards := inductionHypothesis notLater
      rw [work?_move_of_notBegun notFirst] at onwards
      rw [worksOf_accepted_cons, List.getLast?_append, Option.or_assoc]
      exact onwards

/-- A queued work has its turn ahead of the worker, or the flag calls for a pass to come back. -/
inductive Awaits (executor : Executor Work) (handle : Nat) : Nat → Prop where
  | inThisPass
      (cursor : Nat)
      (isCursor : executor.cursor? = some cursor)
      (ahead : cursor ≤ handle) :
      Awaits executor handle 0
  | inNextPass
      (pending : executor.isPending = true)
      (notExited : executor.worker ≠ .exited)
      (behind : ∀ cursor, executor.cursor? = some cursor → handle < cursor) :
      Awaits executor handle 1

theorem isPending_move
    (pending : executor.isPending = true)
    {move : Move Work}
    (notWork : move ≠ .work) :
    (executor.move move).isPending = true := by
  cases move with
  | work =>
      exact absurd rfl notWork
  | put handle work =>
      rw [move_put]
      split
      · rfl
      · exact pending
  | create name | stop =>
      exact pending

section Step

variable
  {begun? ended? : Option (Nat × Work)}
  (worked : Worked executor next begun? ended?)

include worked

theorem Worked.inThisPass
    {cursor : Nat}
    (isCursor : executor.cursor? = some cursor)
    (ahead : cursor ≤ handle)
    (queued : (executor.work? handle).isSome = true)
    (notBegun : worksOf handle begun?.toList = []) :
    next.Awaits handle 0 := by
  have onwards (different : cursor ≠ handle) (nextIs : next.cursor? = some (cursor + 1)) :
      next.Awaits handle 0 :=
    .inThisPass (cursor + 1) nextIs (Nat.lt_of_le_of_ne ahead different)
  cases worked with
  | rested =>
      exact .inThisPass cursor isCursor ahead
  | startedPass waiting | exited waiting =>
      cases (cursor?_of_waiting waiting).symm.trans isCursor
  | endedPass _ scanning pastEnd =>
      cases (cursor?_of_scanning scanning).symm.trans isCursor
      have inTable := lt_size_of_isSome_work? queued
      omega
  | passedBy _ scanning inBounds empty =>
      cases (cursor?_of_scanning scanning).symm.trans isCursor
      refine onwards ?_ rfl
      rintro rfl
      rw [empty] at queued
      cases queued
  | took _ slotName work scanning =>
      cases (cursor?_of_scanning scanning).symm.trans isCursor
      refine onwards ?_ rfl
      rintro rfl
      simp [worksOf] at notBegun
  | finished _ slotName work running =>
      exact .inThisPass cursor ((cursor?_of_running running).symm.trans isCursor) ahead

theorem Worked.inNextPass
    (pending : executor.isPending = true)
    (notExited : executor.worker ≠ .exited)
    (behind : ∀ cursor, executor.cursor? = some cursor → handle < cursor) :
    ∃ left,
      next.Awaits handle left ∧ 1 = (executor.startsPass .work).toNat + left := by
  have stillBehind
      {cursor : Nat}
      (isCursor : executor.cursor? = some cursor)
      (nextAwaits : next.Awaits handle 1) :
      ∃ left, next.Awaits handle left ∧ 1 = (executor.startsPass .work).toNat + left :=
    ⟨1, nextAwaits, congrArg (Bool.toNat · + 1) (startsPass_of_isCursor isCursor .work).symm⟩
  cases worked with
  | rested nothingToDo =>
      refine ⟨1, .inNextPass pending notExited behind, ?_⟩
      rw [startsPass_of_rested nothingToDo]
      rfl
  | startedPass waiting =>
      refine ⟨0, .inThisPass 0 rfl (Nat.zero_le handle), ?_⟩
      rw [startsPass_work_iff.mpr ⟨waiting, pending⟩]
      rfl
  | exited waiting notPending =>
      cases pending.symm.trans notPending
  | endedPass cursor scanning =>
      have isCursor := cursor?_of_scanning scanning
      exact stillBehind isCursor (.inNextPass pending (by rintro ⟨⟩) (by rintro _ ⟨⟩))
  | passedBy cursor scanning =>
      have isCursor := cursor?_of_scanning scanning
      refine stillBehind isCursor (.inNextPass pending (by rintro ⟨⟩) ?_)
      rintro _ ⟨⟩
      exact Nat.lt_succ_of_lt (behind cursor isCursor)
  | took cursor slotName work scanning =>
      have isCursor := cursor?_of_scanning scanning
      refine stillBehind isCursor (.inNextPass pending (by rintro ⟨⟩) ?_)
      rintro _ ⟨⟩
      exact Nat.lt_succ_of_lt (behind cursor isCursor)
  | finished cursor slotName work running =>
      have isCursor := cursor?_of_running running
      refine stillBehind isCursor (.inNextPass pending (by rintro ⟨⟩) ?_)
      rintro _ ⟨⟩
      exact behind (cursor + 1) isCursor

end Step

/-- Until it is begun, a work that is queued waits for the same pass. -/
theorem Awaits.move
    {count : Nat}
    (awaits : executor.Awaits handle count)
    (queued : (executor.work? handle).isSome = true)
    {move : Move Work}
    (notBegun : worksOf handle (executor.begins? move).toList = []) :
    ∃ left,
      (executor.move move).Awaits handle left ∧
        count = (executor.startsPass move).toNat + left := by
  cases awaits with
  | inThisPass cursor isCursor ahead =>
      refine ⟨0, ?_, by rw [startsPass_of_isCursor isCursor]; rfl⟩
      by_cases isWork : move = .work
      · subst isWork
        exact (worked_move executor).inThisPass isCursor ahead queued notBegun
      · exact .inThisPass cursor ((cursor?_move isWork).trans isCursor) ahead
  | inNextPass pending notExited behind =>
      by_cases isWork : move = .work
      · subst isWork
        exact (worked_move executor).inNextPass pending notExited behind
      · refine ⟨1, .inNextPass (isPending_move pending isWork) ?_ ?_, ?_⟩
        · rwa [worker_move isWork]
        · rwa [cursor?_move isWork]
        · rw [startsPass_of_ne_work isWork]
          rfl

/-- Only in the pass that comes to it a work is begun. -/
theorem Awaits.of_begins
    {count : Nat}
    (awaits : executor.Awaits handle count)
    {move : Move Work}
    {work : Work}
    (begins : executor.begins? move = some (handle, work)) :
    count = 0 := by
  cases awaits with
  | inThisPass =>
      rfl
  | inNextPass pending notExited behind =>
      exact absurd (behind handle (of_begins?_eq_some begins).1) (Nat.lt_irrefl handle)

theorem Awaits.run
    {count : Nat}
    (awaits : executor.Awaits handle count)
    (queued : (executor.work? handle).isSome = true)
    {moves : List (Move Work)}
    (notBegun : worksOf handle (executor.begun moves) = []) :
    ∃ left, (executor.run moves).Awaits handle left ∧ count = executor.passes moves + left := by
  induction moves generalizing executor count with
  | nil =>
      exact ⟨count, awaits, (Nat.zero_add count).symm⟩
  | cons first rest inductionHypothesis =>
      rw [worksOf_begun_cons] at notBegun
      obtain ⟨notFirst, notLater⟩ := List.append_eq_nil_iff.mp notBegun
      obtain ⟨left, nextAwaits, countIs⟩ := awaits.move queued notFirst
      have stillQueued : ((executor.move first).work? handle).isSome = true := by
        rw [work?_move_of_notBegun notFirst, Option.isSome_or, queued, Bool.or_true]
      obtain ⟨leftAfter, awaitsAfter, leftIs⟩ :=
        inductionHypothesis nextAwaits stillQueued notLater
      refine ⟨leftAfter, awaitsAfter, ?_⟩
      rw [passes]
      omega

/-- What becomes of a slot that is set while a work is being done. -/
structure TakenInTurn
    (executor : Executor Work)
    (running handle : Nat)
    (work : Work)
    (later : List (Move Work)) :
    Prop where
  /-- The first work taken from it is the last that it accepted, in this pass or the next. -/
  taken :
    ∀ before after last,
      later = before ++ .work :: after →
        worksOf handle ((executor.move (.put handle work)).begun before) = [] →
          ((executor.move (.put handle work)).run before).begins? .work = some (handle, last) →
            (executor.move (.put handle work)).passes before =
                (if running < handle then 0 else 1) ∧
              (worksOf handle (executor.accepted (.put handle work :: before))).getLast? =
                some last
  /-- As long as none is taken from it, that pass is going on, or it is yet to come. -/
  notYet :
    worksOf handle ((executor.move (.put handle work)).begun later) = [] →
      (executor.move (.put handle work)).passes later = (if running < handle then 0 else 1) ∧
          ((executor.move (.put handle work)).run later).isPassing = true ∨
        (executor.move (.put handle work)).passes later < (if running < handle then 0 else 1) ∧
          ((executor.move (.put handle work)).run later).isPending = true

theorem isPassing_of_isCursor
    {cursor : Nat}
    (isCursor : executor.cursor? = some cursor) :
    executor.isPassing = true := by
  unfold cursor? at isCursor
  unfold isPassing
  cases working : executor.worker with
  | scanning | running =>
      rfl
  | waiting | exited =>
      simp only [working] at isCursor
      cases isCursor

/-- A slot that is set while a work is being done awaits this pass or the next one. -/
theorem awaits_put
    {running : Nat}
    {slotName : String}
    {current : Work}
    (isRunning : executor.worker = .running running slotName current)
    (known : handle < executor.size)
    (work : Work) :
    (executor.move (.put handle work)).Awaits handle (if running < handle then 0 else 1) := by
  obtain ⟨-, pending, sameWorker⟩ := put_of_lt_size known work
  have isCursor := cursor?_of_running (sameWorker.trans isRunning)
  by_cases isAhead : running < handle
  · rw [if_pos isAhead]
    exact .inThisPass (running + 1) isCursor isAhead
  · rw [if_neg isAhead]
    refine .inNextPass pending ?_ ?_
    · rw [sameWorker, isRunning]
      rintro ⟨⟩
    · intro cursor found
      cases isCursor.symm.trans found
      exact Nat.lt_succ_of_le (Nat.not_lt.mp isAhead)

theorem takenInTurn_of_put
    {running : Nat}
    {slotName : String}
    {current : Work}
    (isRunning : executor.worker = .running running slotName current)
    (known : handle < executor.size)
    (work : Work)
    (later : List (Move Work)) :
    TakenInTurn executor running handle work later := by
  obtain ⟨holds, -, -⟩ := put_of_lt_size known work
  have queued : ((executor.move (.put handle work)).work? handle).isSome = true := by
    rw [holds]
    rfl
  have awaits := awaits_put isRunning known work
  constructor
  case taken =>
    intro before after last _ notBegun begins
    obtain ⟨left, awaitsAfter, countIs⟩ := awaits.run queued notBegun
    have leftIs := awaitsAfter.of_begins begins
    refine ⟨by omega, ?_⟩
    have acceptsWork : worksOf handle (executor.accepts? (.put handle work)).toList = [work] := by
      simp [accepts?, known, worksOf]
    have held := work?_run_of_notBegun notBegun
    rw [(of_begins?_eq_some begins).2, holds] at held
    rw [worksOf_accepted_cons, acceptsWork, List.getLast?_append]
    exact held.symm
  case notYet =>
    intro notBegun
    obtain ⟨left, awaitsAfter, countIs⟩ := awaits.run queued notBegun
    cases awaitsAfter with
    | inThisPass cursor isCursor =>
        exact .inl ⟨countIs.symm, isPassing_of_isCursor isCursor⟩
    | inNextPass pending =>
        exact .inr ⟨by omega, pending⟩

/-- The slots in the order in which the worker comes to them, from a cursor on and round again. -/
def slotsFrom (cursor size : Nat) : List Nat :=
  List.range' cursor (size - cursor) ++ List.range cursor

/-- What some slots hold, with the slots. -/
def heldBy
    (work? : Nat → Option Work)
    (handles : List Nat) :
    List (Nat × Work) :=
  handles.filterMap fun handle => (work? handle).map (handle, ·)

/-- What will be begun if nothing more is queued. -/
def agenda (executor : Executor Work) : List (Nat × Work) :=
  heldBy executor.work? (slotsFrom (executor.cursor?.getD 0) executor.size)

theorem heldBy_append
    (work? : Nat → Option Work)
    (handles others : List Nat) :
    heldBy work? (handles ++ others) = heldBy work? handles ++ heldBy work? others :=
  List.filterMap_append

theorem heldBy_singleton
    (work? : Nat → Option Work)
    (handle : Nat) :
    heldBy work? [handle] = ((work? handle).map (handle, ·)).toList := by
  cases held : work? handle with
  | none =>
      simp [heldBy, held]
  | some work =>
      simp [heldBy, held]

theorem heldBy_congr
    {work? other? : Nat → Option Work}
    {handles : List Nat}
    (same : ∀ handle ∈ handles, work? handle = other? handle) :
    heldBy work? handles = heldBy other? handles := by
  refine List.filterMap_congr fun handle member => ?_
  rw [same handle member]

/-- A slot that the worker has dealt with comes last in the next round. -/
theorem exists_slotsFrom_eq_cons
    {cursor size : Nat}
    (inBounds : cursor < size) :
    ∃ others,
      slotsFrom cursor size = [cursor] ++ others ∧
        slotsFrom (cursor + 1) size = others ++ [cursor] ∧ cursor ∉ others := by
  refine ⟨List.range' (cursor + 1) (size - (cursor + 1)) ++ List.range cursor, ?_, ?_, ?_⟩
  · have split : size - cursor = size - (cursor + 1) + 1 := by
      omega
    rw [slotsFrom, split, List.range'_succ]
    rfl
  · rw [slotsFrom, List.range_succ, List.append_assoc]
  · rw [List.mem_append, List.mem_range'_1, List.mem_range]
    omega

/-- Slots that do not exist hold nothing, so it does not matter how many of them are counted. -/
theorem heldBy_slotsFrom_succ
    {work? : Nat → Option Work}
    {size : Nat}
    (holdsNothing : work? size = none)
    (cursor : Nat) :
    heldBy work? (slotsFrom cursor (size + 1)) = heldBy work? (slotsFrom cursor size) := by
  by_cases inBounds : cursor ≤ size
  · have split : size + 1 - cursor = size - cursor + 1 := by
      omega
    have lastIs : cursor + (size - cursor) = size := by
      omega
    rw [slotsFrom, split, List.range'_concat, slotsFrom, heldBy_append, heldBy_append,
      heldBy_append, Nat.one_mul, lastIs, heldBy_singleton, holdsNothing]
    simp
  · have pastEnd : size - cursor = 0 ∧ size + 1 - cursor = 0 := by
      omega
    rw [slotsFrom, slotsFrom, pastEnd.1, pastEnd.2]

theorem work?_of_size_le
    (pastEnd : executor.size ≤ handle) :
    executor.work? handle = none := by
  refine Option.not_isSome_iff_eq_none.mp fun queued => ?_
  exact Nat.not_lt.mpr pastEnd (lt_size_of_isSome_work? queued)

/-- Past the end a pass is over, and the next one will begin with the first slot. -/
theorem heldBy_slotsFrom_of_size_le
    {cursor : Nat}
    (pastEnd : executor.size ≤ cursor) :
    heldBy executor.work? (slotsFrom cursor executor.size) =
      heldBy executor.work? (slotsFrom 0 executor.size) := by
  have nothingLeft : executor.size - cursor = 0 := Nat.sub_eq_zero_of_le pastEnd
  have allFromZero : slotsFrom 0 executor.size = List.range executor.size := by
    rw [slotsFrom, Nat.sub_zero, List.range_zero, List.append_nil, List.range_eq_range']
  rw [slotsFrom, nothingLeft, List.range'_zero, List.nil_append, allFromZero]
  induction cursor, pastEnd using Nat.le_induction with
  | base =>
      rfl
  | succ cursor pastEnd inductionHypothesis =>
      have nothingBefore : executor.size - cursor = 0 := Nat.sub_eq_zero_of_le pastEnd
      rw [List.range_succ, heldBy_append, inductionHypothesis nothingBefore, heldBy_singleton,
        work?_of_size_le pastEnd]
      exact List.append_nil _

/-- In a step of the worker the agenda stays as it is, except for a work that is begun. -/
theorem Worked.agenda
    {begun? ended? : Option (Nat × Work)}
    (worked : Worked executor next begun? ended?) :
    begun?.toList ++ next.agenda = executor.agenda := by
  cases worked with
  | rested =>
      rfl
  | startedPass waiting | exited waiting =>
      simp only [Executor.agenda, cursor?, waiting]
      rfl
  | endedPass cursor scanning pastEnd =>
      simp only [Executor.agenda, cursor?, scanning]
      exact (heldBy_slotsFrom_of_size_le pastEnd).symm
  | passedBy cursor scanning inBounds empty =>
      obtain ⟨others, fromHere, fromNext, -⟩ := exists_slotsFrom_eq_cons inBounds
      simp only [Executor.agenda, cursor?, scanning, Option.getD_some, fromHere]
      change [] ++ heldBy executor.work? (slotsFrom (cursor + 1) executor.size) = _
      rw [fromNext, heldBy_append, heldBy_append, heldBy_singleton, empty]
      exact List.append_nil _
  | took cursor slotName work scanning inBounds queued =>
      obtain ⟨others, fromHere, fromNext, notAgain⟩ := exists_slotsFrom_eq_cons inBounds
      have taken : (executor.replace cursor none).work? cursor = none := by
        rw [work?_replace, if_pos ⟨rfl, inBounds⟩]
      have othersKept :
          heldBy (executor.replace cursor none).work? others = heldBy executor.work? others := by
        refine heldBy_congr fun handle member => ?_
        have different : cursor ≠ handle := by
          rintro rfl
          exact notAgain member
        rw [work?_replace, if_neg fun both => different both.1]
      simp only [Executor.agenda, cursor?, scanning, Option.getD_some, fromHere]
      change
        [(cursor, work)] ++
            heldBy (executor.replace cursor none).work?
              (slotsFrom (cursor + 1) (executor.replace cursor none).size) =
          _
      rw [size_replace, fromNext, heldBy_append, heldBy_append, heldBy_singleton,
        heldBy_singleton, taken, queued, othersKept]
      exact congrArg _ (List.append_nil _)
  | finished cursor slotName work running =>
      simp only [Executor.agenda, cursor?, running]
      rfl

/-- Where no slot is set, what is begun is taken from the agenda. -/
theorem agenda_move
    {move : Move Work}
    (setsNothing : ∀ handle work, move ≠ .put handle work) :
    (executor.begins? move).toList ++ (executor.move move).agenda = executor.agenda := by
  cases move with
  | create name =>
      have sameHeld :
          heldBy (executor.create name).2.work?
              (slotsFrom (executor.cursor?.getD 0) (executor.size + 1)) =
            heldBy executor.work? (slotsFrom (executor.cursor?.getD 0) (executor.size + 1)) :=
        heldBy_congr fun handle _ => work?_create executor name handle
      have nextSize : (executor.create name).2.size = executor.size + 1 := by
        simp [create, size]
      change [] ++ heldBy (executor.create name).2.work?
        (slotsFrom (executor.cursor?.getD 0) (executor.create name).2.size) = _
      rw [nextSize, sameHeld, heldBy_slotsFrom_succ (work?_of_size_le (Nat.le_refl _))]
      rfl
  | put handle work =>
      exact absurd rfl (setsNothing handle work)
  | stop =>
      rfl
  | work =>
      exact (worked_move executor).agenda

theorem agenda_run
    {moves : List (Move Work)}
    (setsNothing : ∀ handle work, .put handle work ∉ moves) :
    executor.begun moves ++ (executor.run moves).agenda = executor.agenda := by
  induction moves generalizing executor with
  | nil =>
      rfl
  | cons first rest inductionHypothesis =>
      have firstSetsNothing (handle : Nat) (work : Work) : first ≠ .put handle work := by
        rintro rfl
        exact setsNothing handle work List.mem_cons_self
      have onwards :
          (executor.move first).begun rest ++ ((executor.move first).run rest).agenda =
            (executor.move first).agenda :=
        inductionHypothesis fun handle work member =>
          setsNothing handle work (List.mem_cons_of_mem first member)
      calc
        executor.begun (first :: rest) ++ (executor.run (first :: rest)).agenda =
            (executor.begins? first).toList ++
              ((executor.move first).begun rest ++ ((executor.move first).run rest).agenda) :=
          List.append_assoc ..
        _ = (executor.begins? first).toList ++ (executor.move first).agenda := by
          rw [onwards]
        _ = executor.agenda :=
          agenda_move firstSetsNothing

/-- At rest nothing is on the agenda. -/
theorem IsAttended.agenda_eq_nil
    (isAttended : executor.IsAttended)
    (notPending : executor.isPending = false)
    (notPassing : executor.isPassing = false) :
    executor.agenda = [] := by
  obtain ⟨nothingQueued, -⟩ := isAttended.atRest notPending notPassing
  refine List.filterMap_eq_nil_iff.mpr fun handle _ => ?_
  rw [nothingQueued]
  rfl

/-- The moves in which some works are set one after the other. -/
def puts (sets : List (Nat × Work)) : List (Move Work) :=
  sets.map fun set => .put set.1 set.2

/-- What is begun if some works are set while the work of a slot is being done, and no others. -/
def lastSets
    (executor : Executor Work)
    (running : Nat)
    (sets : List (Nat × Work)) :
    List (Nat × Work) :=
  heldBy (fun handle => (worksOf handle sets).getLast?.or (executor.work? handle))
    (slotsFrom (running + 1) executor.size)

theorem begun_append
    (executor : Executor Work)
    (moves others : List (Move Work)) :
    executor.begun (moves ++ others) =
      executor.begun moves ++ (executor.run moves).begun others :=
  noted_append begins? executor moves others

section Puts

variable (sets : List (Nat × Work))

theorem begun_puts (executor : Executor Work) : executor.begun (puts sets) = [] := by
  induction sets generalizing executor with
  | nil =>
      rfl
  | cons set rest inductionHypothesis =>
      exact inductionHypothesis (executor.move (.put set.1 set.2))

theorem size_move_put
    (executor : Executor Work)
    (handle : Nat)
    (work : Work) :
    (executor.move (.put handle work)).size = executor.size := by
  rw [move_put]
  split
  · exact size_replace executor handle (some work)
  · rfl

theorem run_puts (executor : Executor Work) :
    (executor.run (puts sets)).size = executor.size ∧
      (executor.run (puts sets)).worker = executor.worker := by
  induction sets generalizing executor with
  | nil =>
      exact ⟨rfl, rfl⟩
  | cons set rest inductionHypothesis =>
      obtain ⟨sameSize, sameWorker⟩ := inductionHypothesis (executor.move (.put set.1 set.2))
      exact
        ⟨sameSize.trans (size_move_put executor set.1 set.2),
          sameWorker.trans (worker_move (by rintro ⟨⟩))⟩

/-- A slot that exists accepts all works that are set on it. -/
theorem worksOf_accepted_puts
    (known : handle < executor.size) :
    worksOf handle (executor.accepted (puts sets)) = worksOf handle sets := by
  induction sets generalizing executor with
  | nil =>
      rfl
  | cons set rest inductionHypothesis =>
      obtain ⟨other, work⟩ := set
      have stillKnown : handle < (executor.move (.put other work)).size := by
        rwa [size_move_put]
      have acceptsSet :
          worksOf handle (executor.accepts? (.put other work)).toList =
            worksOf handle [(other, work)] := by
        by_cases same : other = handle
        · simp [accepts?, same, known]
        · simp only [accepts?]
          split
          · rfl
          · simp [worksOf, same]
      calc
        worksOf handle (executor.accepted (puts ((other, work) :: rest))) =
            worksOf handle (executor.accepts? (.put other work)).toList ++
              worksOf handle ((executor.move (.put other work)).accepted (puts rest)) :=
          worksOf_accepted_cons ..
        _ = worksOf handle [(other, work)] ++ worksOf handle rest := by
          rw [acceptsSet, inductionHypothesis stillKnown]
        _ = worksOf handle ((other, work) :: rest) :=
          (worksOf_append handle [(other, work)] rest).symm

/-- What some sets put on the agenda while the work of a slot is being done. -/
theorem agenda_run_puts
    {running : Nat}
    {slotName : String}
    {current : Work}
    (isRunning : executor.worker = .running running slotName current)
    (inTable : running < executor.size) :
    (executor.run (puts sets)).agenda = executor.lastSets running sets := by
  obtain ⟨sameSize, sameWorker⟩ := run_puts sets executor
  have isCursor := cursor?_of_running (sameWorker.trans isRunning)
  rw [agenda, lastSets, isCursor, sameSize]
  refine heldBy_congr fun handle member => ?_
  have known : handle < executor.size := by
    rw [Option.getD_some, slotsFrom, List.mem_append, List.mem_range'_1, List.mem_range] at member
    omega
  have nothingBegun : worksOf handle (executor.begun (puts sets)) = [] := by
    rw [begun_puts]
    rfl
  rw [work?_run_of_notBegun nothingBegun, worksOf_accepted_puts sets known]

end Puts

/-- A worker that has not exited comes to rest after some steps, if nothing is set. -/
theorem exists_atRest
    (executor : Executor Work)
    (notExited : executor.worker ≠ .exited) :
    ∃ count,
      (executor.run (List.replicate count .work)).isPending = false ∧
        (executor.run (List.replicate count .work)).isPassing = false := by
  cases stepped : bare.step? executor with
  | none =>
      refine ⟨0, ?_⟩
      cases working : executor.worker with
      | waiting =>
          simp only [step?_bare, working] at stepped
          split at stepped
          · cases stepped
          · rename_i notPending
            have notPassing : executor.isPassing = false := by
              simp only [isPassing, working]
            exact ⟨Bool.eq_false_iff.mpr notPending, notPassing⟩
      | scanning | running =>
          simp only [step?_bare, working] at stepped
          cases stepped
      | exited =>
          exact absurd working notExited
  | some next =>
      have moved : executor.move .work = next := by
        rw [move, stepped, Option.getD_some]
      by_cases exits : next.worker = .exited
      · obtain ⟨notPending, notPassing, -⟩ := exits_of_move notExited (moved ▸ exits)
        exact ⟨0, notPending, notPassing⟩
      · have lighter := bare.measure_lt_of_step?_eq_some stepped
        obtain ⟨count, notPending, notPassing⟩ := exists_atRest next exits
        refine ⟨count + 1, ?_⟩
        rw [List.replicate_succ]
        change
          ((executor.move .work).run (List.replicate count .work)).isPending = false ∧
            ((executor.move .work).run (List.replicate count .work)).isPassing = false
        rw [moved]
        exact ⟨notPending, notPassing⟩
termination_by bare.measure executor
decreasing_by exact lighter

/-- What is begun if some works are set while the work of a slot is being done. -/
structure BeginsLastSets
    (executor : Executor Work)
    (running : Nat)
    (sets : List (Nat × Work)) :
    Prop where
  /-- If nothing else is set, the last works on all slots are begun one after the other. -/
  inOrder :
    ∀ later,
      (∀ handle work, .put handle work ∉ later) →
        executor.begun (puts sets ++ later) <+: executor.lastSets running sets
  /-- At rest all of them have been begun. -/
  allAtRest :
    ∀ later,
      (∀ handle work, .put handle work ∉ later) →
        (executor.run (puts sets ++ later)).isPending = false →
          (executor.run (puts sets ++ later)).isPassing = false →
            executor.begun (puts sets ++ later) = executor.lastSets running sets
  /-- The worker comes to rest by itself. -/
  comesToRest :
    ∃ count,
      (executor.run (puts sets ++ List.replicate count .work)).isPending = false ∧
        (executor.run (puts sets ++ List.replicate count .work)).isPassing = false
  /-- Only the order of the sets on each slot matters. -/
  bySlot :
    ∀ others,
      (∀ handle, worksOf handle others = worksOf handle sets) →
        executor.lastSets running others = executor.lastSets running sets

theorem beginsLastSets_of_running
    {earlier : List (Move Work)}
    {running : Nat}
    {slotName : String}
    {current : Work}
    (isRunning : (run {} earlier).worker = .running running slotName current)
    (sets : List (Nat × Work)) :
    BeginsLastSets (run {} earlier) running sets := by
  have inTable := lt_size_of_running isRunning
  have agendaIs := agenda_run_puts sets isRunning inTable
  have accounts
      (later : List (Move Work))
      (setsNothing : ∀ handle work, .put handle work ∉ later) :
      (run {} earlier).begun (puts sets ++ later) ++
          ((run {} earlier).run (puts sets ++ later)).agenda =
        (run {} earlier).lastSets running sets := by
    rw [begun_append, begun_puts, List.nil_append, run_append, agenda_run setsNothing, agendaIs]
  constructor
  case inOrder =>
    intro later setsNothing
    exact ⟨_, accounts later setsNothing⟩
  case allAtRest =>
    intro later setsNothing notPending notPassing
    have isAttended : ((run {} earlier).run (puts sets ++ later)).IsAttended := by
      rw [← run_append]
      exact isAttended_run _
    have accounted := accounts later setsNothing
    rwa [isAttended.agenda_eq_nil notPending notPassing, List.append_nil] at accounted
  case comesToRest =>
    have notExited : ((run {} earlier).run (puts sets)).worker ≠ .exited := by
      rw [(run_puts sets _).2, isRunning]
      rintro ⟨⟩
    simp only [run_append]
    exact exists_atRest _ notExited
  case bySlot =>
    intro others sameSets
    simp only [lastSets, sameSets]

/--
Works are begun pass by pass, and in a pass by slot, so each slot has at most one turn in it.
A slot that is set while the work of another slot, or its own, is being done has its turn in
that pass if it comes later in the table, and else in the next pass, with the last work that
it has accepted by then.  So after any sets, if nothing else is set, the last works on all slots
are begun, first those behind the work that was being done and then those up to it, whatever
the order of the sets on different slots.  All that is done to a bench is such a course, in
which each script makes its moves.
-/
theorem works_take_turns
    {Job : Type} :
    (∀ moves : List (Move Job),
        (turns {} 0 moves).map (fun turn => (turn.handle, turn.work)) = begun {} moves ∧
          (∀ turn,
            turn ∈ turns {} 0 moves ↔
              ∃ before move after,
                moves = before ++ move :: after ∧
                  passes {} before = turn.pass ∧
                    (run {} before).begins? move = some (turn.handle, turn.work)) ∧
            (turns {} 0 moves).Pairwise Turn.Before) ∧
      (∀ (earlier : List (Move Job)) running slotName current,
        (run {} earlier).worker = .running running slotName current →
          (∀ handle work later,
              handle < (run {} earlier).size →
                TakenInTurn (run {} earlier) running handle work later) ∧
            ∀ sets, BeginsLastSets (run {} earlier) running sets) ∧
        ∀ operations : List Operation,
          Bench.Leads {} (movesOf {} operations) (({} : Bench).operateAll operations) := by
  refine ⟨?_, ?_, Bench.leads_operateAll {}⟩
  · intro moves
    refine ⟨map_turns {} 0 moves, fun turn => ?_, pairwise_turns {} 0 moves⟩
    simp only [mem_turns_iff, Nat.zero_add]
  · intro earlier running slotName current isRunning
    exact
      ⟨fun handle work later known => takenInTurn_of_put isRunning known work later,
        beginsLastSets_of_running isRunning⟩

/-- The work of the second of three slots is being done. -/
def middleRunning : List (Move String) :=
  [.create "first", .create "middle", .create "last", .put 1 "current", .work, .work, .work]

theorem works_take_turns_around_middle :
    (run {} middleRunning).worker = .running 1 "middle" "current" ∧
      (∃ count,
        (run {} middleRunning).begun
            (puts [(0, "a"), (2, "b"), (1, "c"), (2, "d"), (0, "e")] ++
              List.replicate count .work) =
          [(2, "d"), (0, "e"), (1, "c")]) ∧
        TakenInTurn (run {} middleRunning) 1 2 "b" [.put 2 "d", .work, .work] := by
  have isRunning : (run {} middleRunning).worker = .running 1 "middle" "current" := by
    rfl
  obtain ⟨taken, begins⟩ := works_take_turns.2.1 middleRunning 1 "middle" "current" isRunning
  refine ⟨isRunning, ?_, taken 2 "b" [.put 2 "d", .work, .work] (by decide)⟩
  obtain ⟨-, allAtRest, ⟨count, notPending, notPassing⟩, -⟩ :=
    begins [(0, "a"), (2, "b"), (1, "c"), (2, "d"), (0, "e")]
  refine ⟨count, allAtRest (List.replicate count .work) ?_ notPending notPassing⟩
  intro handle work member
  cases List.eq_of_mem_replicate member

end RefreshRate.Executor
