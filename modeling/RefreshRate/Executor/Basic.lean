import RefreshRate.Handle

namespace RefreshRate

/-!
# The executor

The executor has a table of slots, each with at most one queued work, and one
worker.  The worker makes passes over the table: it walks over the slots in
ascending order, takes each work that it finds and does it before it goes on.
A work that is queued behind the worker waits for the next pass.
-/

/-- A named place for at most one queued work. -/
structure Executor.Slot (Work : Type) where
  name : String
  work? : Option Work := none
  deriving Repr, DecidableEq

/-- What the worker is doing. -/
inductive Executor.Worker (Work : Type) where
  /-- There is no pass. -/
  | waiting
  /-- A pass is about to look at a slot. -/
  | scanning (cursor : Nat)
  /-- A pass is doing the work that it has taken from a slot. -/
  | running (cursor : Nat) (slotName : String) (work : Work)
  /-- The worker has stopped for good. -/
  | exited
  deriving Repr, DecidableEq

/-- The slots, the flag that says that something was queued, and the worker. -/
structure Executor (Work : Type) where
  slots : List (Executor.Slot Work) := []
  isPending : Bool := false
  isStopping : Bool := false
  worker : Executor.Worker Work := .waiting
  deriving Repr, DecidableEq

namespace Executor

variable {Work : Type}

/-- The number of slots. -/
def size (executor : Executor Work) : Nat :=
  executor.slots.length

/-- Add an empty slot; its handle is the number of slots before. -/
def create
    (executor : Executor Work)
    (name : String) :
    Nat × Executor Work :=
  (executor.size, { executor with slots := executor.slots ++ [⟨name, none⟩] })

/-- The work that is queued on a slot. -/
def work?
    (executor : Executor Work)
    (handle : Nat) :
    Option Work :=
  executor.slots[handle]?.bind Slot.work?

/-- Replace the work of a slot, if there is such a slot. -/
def replace
    (executor : Executor Work)
    (handle : Nat)
    (work? : Option Work) :
    Executor Work :=
  { executor with
    slots := executor.slots.modify handle fun slot => { slot with work? } }

/-- Queue a work on a slot; the work that was queued there is dropped. -/
def put
    (executor : Executor Work)
    (handle : Nat)
    (work : Work) :
    Except HandleError (Executor Work) :=
  if handle < executor.size then
    .ok { executor.replace handle (some work) with isPending := true }
  else
    .error ⟨.executor, handle, executor.size⟩

/-- Ask the worker to stop once nothing is queued. -/
def stop (executor : Executor Work) : Executor Work :=
  { executor with isStopping := true }

/-- Whether the worker is doing a work. -/
def isRunning (executor : Executor Work) : Bool :=
  match executor.worker with
  | .running .. => true
  | _ => false

/-- Whether the worker has stopped for good. -/
def hasExited (executor : Executor Work) : Bool :=
  match executor.worker with
  | .exited => true
  | _ => false

/-- Look at one slot: take the work that is queued there, or go on to the next slot. -/
def scan
    (executor : Executor Work)
    (cursor : Nat) :
    Executor Work :=
  match executor.slots[cursor]? with
  | none =>
      { executor with worker := .waiting }
  | some slot =>
      match slot.work? with
      | none =>
          { executor with worker := .scanning (cursor + 1) }
      | some work =>
          { executor.replace cursor none with worker := .running cursor slot.name work }

/-- The weight of what is queued in slots. -/
def queuedWeight
    (weight : Work → Nat) :
    List (Slot Work) → Nat
  | [] => 0
  | slot :: rest => slot.work?.elim 0 weight + queuedWeight weight rest

/-- The weight of the work that is being done. -/
def Worker.weight
    (weight : Work → Nat) :
    Worker Work → Nat
  | .running _ _ work => weight work
  | _ => 0

/-- The weight of all work that has not been done yet. -/
def load
    (weight : Work → Nat)
    (executor : Executor Work) :
    Nat :=
  queuedWeight weight executor.slots + executor.worker.weight weight

/-- How far the worker is from the end of its pass. -/
def rank (executor : Executor Work) : Nat :=
  match executor.worker with
  | .exited => 0
  | .waiting => 1
  | .scanning cursor => 2 * (executor.size - cursor) + 2
  | .running cursor _ _ => 2 * (executor.size - cursor) + 1

/-- Taking the work out of a slot takes its weight out of what is queued. -/
theorem queuedWeight_modify_none
    (weight : Work → Nat)
    {slots : List (Slot Work)}
    {cursor : Nat}
    {slot : Slot Work}
    (present : slots[cursor]? = some slot) :
    queuedWeight weight (slots.modify cursor fun slot => { slot with work? := none }) +
        slot.work?.elim 0 weight =
      queuedWeight weight slots := by
  induction slots generalizing cursor with
  | nil =>
      simp at present
  | cons head rest inductionHypothesis =>
      cases cursor with
      | zero =>
          simp only [List.getElem?_cons_zero, Option.some.injEq] at present
          subst present
          simp [queuedWeight, Nat.add_comm]
      | succ cursor =>
          simp only [List.getElem?_cons_succ] at present
          have rest_eq := inductionHypothesis present
          simp only [queuedWeight, List.modify_succ_cons]
          omega

@[simp]
theorem size_replace
    (executor : Executor Work)
    (handle : Nat)
    (work? : Option Work) :
    (executor.replace handle work?).size = executor.size := by
  simp [size, replace]

/-- Replacing a work changes it in the slot of its handle and nothing else. -/
theorem work?_replace
    (executor : Executor Work)
    (handle other : Nat)
    (work? : Option Work) :
    (executor.replace handle work?).work? other =
      if handle = other ∧ handle < executor.size then work? else executor.work? other := by
  simp only [Executor.work?, replace, List.getElem?_modify, size]
  by_cases same : handle = other
  · subst same
    by_cases inBounds : handle < executor.slots.length <;> simp [inBounds]
  · simp [same]

/-- Looking at a slot neither adds nor loses work. -/
theorem load_scan
    (weight : Work → Nat)
    {executor : Executor Work}
    {cursor : Nat}
    (scanning : executor.worker = .scanning cursor) :
    (executor.scan cursor).load weight = executor.load weight := by
  unfold scan
  split
  · simp [load, Worker.weight, scanning]
  · rename_i slot present
    have taken := queuedWeight_modify_none weight present
    split
    · simp [load, Worker.weight, scanning]
    · rename_i work queued
      simp only [queued, Option.elim_some] at taken
      simp only [load, replace, Worker.weight, scanning]
      exact taken

/-- Looking at a slot leaves the flag of queued work alone. -/
theorem isPending_scan
    (executor : Executor Work)
    (cursor : Nat) :
    (executor.scan cursor).isPending = executor.isPending := by
  unfold scan
  split
  · rfl
  · split <;> rfl

/-- Looking at a slot brings the worker nearer to the end of its pass. -/
theorem rank_scan_lt
    {executor : Executor Work}
    {cursor : Nat}
    (scanning : executor.worker = .scanning cursor) :
    (executor.scan cursor).rank < executor.rank := by
  unfold scan
  split
  · simp [rank, scanning]
  · rename_i slot present
    have inBounds : cursor < executor.size :=
      (List.getElem?_eq_some_iff.1 present).1
    split
    · simp only [rank, scanning, size] at inBounds ⊢
      omega
    · rename_i work queued
      have sameSize := size_replace executor cursor none
      simp only [rank, scanning, size, replace] at sameSize ⊢
      omega

end Executor

end RefreshRate
