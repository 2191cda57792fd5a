import RefreshRate.Timer.Table

namespace RefreshRate.Timer

/-!
# The register of timers

A register keeps deadlines and works apart: each entry has a place for either, and a
scheduler fills and empties both places itself.  It looks for what is due entry by entry.
-/

/-- A named place for a deadline and one for a work. -/
structure Entry (Work : Type) where
  name : String
  deadline? : Option Int := none
  work? : Option Work := none
  deriving Repr, DecidableEq

namespace Entry

variable {Work : Type}

/-- Replace the work and the deadline, which is dropped without a work. -/
def fill
    (entry : Entry Work)
    (work? : Option Work)
    (deadline : Int) :
    Entry Work :=
  { entry with deadline? := work?.map fun _ => deadline, work? }

/-- Take the work out, and the deadline with it. -/
def empty (entry : Entry Work) : Entry Work :=
  { entry with deadline? := none, work? := none }

end Entry

/-- The entries of a scheduler; a handle is an index into them. -/
structure Register (Work : Type) where
  entries : List (Entry Work) := []
  deriving Repr, DecidableEq

namespace Register

variable {Work : Type}

/-- The number of entries. -/
def size (register : Register Work) : Nat :=
  register.entries.length

/-- Add an empty entry; its handle is the number of entries before. -/
def create
    (register : Register Work)
    (name : String) :
    Nat × Register Work :=
  (register.size, { entries := register.entries ++ [⟨name, none, none⟩] })

/-- Replace the work of an entry and its deadline, if there is such an entry. -/
def set
    (register : Register Work)
    (handle : Nat)
    (work? : Option Work)
    (deadline : Int) :
    Except HandleError (Register Work) :=
  if handle < register.size then
    .ok { entries := register.entries.modify handle fun entry => entry.fill work? deadline }
  else
    .error ⟨.scheduler, handle, register.size⟩

/-- Whether an entry has a deadline. -/
def isArmed
    (register : Register Work)
    (handle : Nat) :
    Bool :=
  register.entries[handle]?.any fun entry => entry.deadline?.isSome

/-- The time to wake up next: the least deadline, or the next moment once that has come. -/
def nextWakeUp?
    (register : Register Work)
    (now : Nat) :
    Option Nat :=
  (register.entries.filterMap Entry.deadline?).min?.map fun earliest =>
    if (now : Int) < earliest then earliest.toNat else now + 1

/-- Look for the least deadline that has come among entries, of which the first has an index. -/
def pickFrom
    (now : Nat)
    (index : Nat)
    (best? : Option (Nat × Int)) :
    List (Entry Work) → Option (Nat × Int)
  | [] =>
      best?
  | entry :: rest =>
      let better? :=
        match entry.deadline? with
        | none =>
            best?
        | some deadline =>
            if deadline ≤ (now : Int) ∧ best?.all (fun best => deadline < best.2) then
              some (index, deadline)
            else
              best?
      pickFrom now (index + 1) better? rest

/-- Empty the entry with the least deadline that has come; its work, if it has one, is done. -/
def fireOne
    (register : Register Work)
    (now : Nat) :
    Option (Firing Work) × Register Work :=
  match pickFrom now 0 none register.entries with
  | none =>
      (none, register)
  | some (handle, deadline) =>
      (register.entries[handle]?.bind fun entry =>
          entry.work?.map fun work => ⟨handle, entry.name, ⟨deadline, work⟩⟩,
        { entries := register.entries.modify handle Entry.empty })

end Register

end RefreshRate.Timer
