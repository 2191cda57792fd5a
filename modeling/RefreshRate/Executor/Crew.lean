import RefreshRate.Executor.Basic

namespace RefreshRate.Executor

/-!
# The worker at work

A crew is a world with an executor in it that knows how to do a work.  The
worker goes on step by step until nothing is left to do.  This ends because a
work may only queue works that together weigh less than itself.
-/

/-- A world that holds an executor and does its works. -/
structure Crew (World Work : Type) where
  /-- The executor in the world. -/
  executor : World → Executor Work
  /-- Replace the executor in the world. -/
  withExecutor : World → Executor Work → World
  /-- Do a work that was taken from a slot of a given handle and name. -/
  run : Nat → String → Work → World → World
  /-- A bound on the works that a work may give rise to. -/
  weight : Work → Nat
  executor_withExecutor :
    ∀ world replacement, executor (withExecutor world replacement) = replacement
  /-- A work queues less than its own weight. -/
  queuedWeight_run_lt :
    ∀ handle slotName work world,
      queuedWeight weight (executor (run handle slotName work world)).slots <
        queuedWeight weight (executor world).slots + weight work

namespace Crew

variable {World Work : Type}

/-- Start a pass: whatever is queued from now on needs another pass or this one. -/
def startPass
    (crew : Crew World Work)
    (world : World) :
    World :=
  crew.withExecutor world
    { crew.executor world with isPending := false, worker := .scanning 0 }

/-- Let the worker stop for good. -/
def exit
    (crew : Crew World Work)
    (world : World) :
    World :=
  crew.withExecutor world { crew.executor world with worker := .exited }

/-- Do the work that was taken and go on with the next slot. -/
def finish
    (crew : Crew World Work)
    (cursor : Nat)
    (slotName : String)
    (work : Work)
    (world : World) :
    World :=
  let after := crew.run cursor slotName work world
  crew.withExecutor after { crew.executor after with worker := .scanning (cursor + 1) }

/-- One step of the worker; none if there is nothing to do. -/
def step?
    (crew : Crew World Work)
    (world : World) :
    Option World :=
  let executor := crew.executor world
  match executor.worker with
  | .waiting =>
      if executor.isPending then
        some (crew.startPass world)
      else if executor.isStopping then
        some (crew.exit world)
      else
        none
  | .scanning cursor =>
      some (crew.withExecutor world (executor.scan cursor))
  | .running cursor slotName work =>
      some (crew.finish cursor slotName work world)
  | .exited =>
      none

/-- The measure that every step of the worker lowers. -/
def measure
    (crew : Crew World Work)
    (world : World) :
    Nat × Nat × Nat :=
  let executor := crew.executor world
  (executor.load crew.weight, executor.isPending.toNat, executor.rank)

/-- Every step of the worker lowers the measure. -/
theorem measure_lt_of_step?_eq_some
    (crew : Crew World Work)
    {world next : World}
    (stepped : crew.step? world = some next) :
    Prod.Lex (· < ·) (Prod.Lex (· < ·) (· < ·)) (crew.measure next) (crew.measure world) := by
  simp only [step?] at stepped
  split at stepped
  · rename_i waiting
    split at stepped
    · rename_i pending
      cases stepped
      simp only [measure, startPass, crew.executor_withExecutor, pending, waiting, load,
        Worker.weight]
      exact .right _ (.left _ _ Nat.zero_lt_one)
    · split at stepped
      · cases stepped
        simp only [measure, exit, crew.executor_withExecutor, waiting, load, Worker.weight, rank]
        exact .right _ (.right _ Nat.zero_lt_one)
      · cases stepped
  · rename_i cursor scanning
    cases stepped
    simp only [measure, crew.executor_withExecutor, load_scan crew.weight scanning, isPending_scan]
    exact .right _ (.right _ (rank_scan_lt scanning))
  · rename_i cursor slotName work running
    cases stepped
    have lighter := crew.queuedWeight_run_lt cursor slotName work world
    simp only [measure, finish, crew.executor_withExecutor, load, Worker.weight, running]
    exact .left _ _ lighter
  · cases stepped

/-- Let the worker go on until it has nothing to do or a condition holds. -/
def settleUntil
    (crew : Crew World Work)
    (isReached : World → Bool)
    (world : World) :
    World :=
  if isReached world then
    world
  else
    match _stepped : crew.step? world with
    | none =>
        world
    | some next =>
        crew.settleUntil isReached next
termination_by crew.measure world
decreasing_by exact crew.measure_lt_of_step?_eq_some _stepped

/-- Let the worker go on until it has nothing to do. -/
def settle
    (crew : Crew World Work)
    (world : World) :
    World :=
  crew.settleUntil (fun _ => false) world

/-- The worker stops going on only where the condition holds or nothing is to be done. -/
theorem settleUntil_stops
    (crew : Crew World Work)
    (isReached : World → Bool)
    (world : World) :
    isReached (crew.settleUntil isReached world) = true ∨
      crew.step? (crew.settleUntil isReached world) = none := by
  fun_induction crew.settleUntil isReached world with
  | case1 world reached =>
      exact .inl reached
  | case2 world notReached resting =>
      exact .inr resting
  | case3 world notReached next stepped inductionHypothesis =>
      exact inductionHypothesis

/-- A worker that has settled has nothing to do. -/
theorem step?_settle
    (crew : Crew World Work)
    (world : World) :
    crew.step? (crew.settle world) = none := by
  rcases crew.settleUntil_stops (fun _ => false) world with reached | resting
  · cases reached
  · exact resting

end Crew

end RefreshRate.Executor
