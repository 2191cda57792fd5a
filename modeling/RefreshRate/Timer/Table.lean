import RefreshRate.Handle

namespace RefreshRate.Timer

/-!
# The table of timers

Each slot of the table sleeps or is armed with one alarm: a deadline and the
work to do then.  Arming a slot replaces its alarm.  At any time the alarm that
fires next is the one with the least deadline, and of equal deadlines the one
with the lowest handle.
-/

/-- Work to be done at a deadline. -/
structure Alarm (Work : Type) where
  deadline : Int
  work : Work
  deriving Repr, DecidableEq

/-- A named place for at most one alarm. -/
structure Slot (Work : Type) where
  name : String
  alarm? : Option (Alarm Work) := none
  deriving Repr, DecidableEq

/-- The slots of a scheduler; a handle is an index into them. -/
structure Table (Work : Type) where
  slots : List (Slot Work) := []
  deriving Repr, DecidableEq

/-- Work that has been taken from its slot to be done. -/
structure Firing (Work : Type) where
  handle : Nat
  slotName : String
  alarm : Alarm Work
  deriving Repr, DecidableEq

/-- The armed slot with the least deadline, the first of several. -/
def earliestSlot?
    {Work : Type} :
    List (Slot Work) → Option (Firing Work)
  | [] =>
      none
  | slot :: rest =>
      let later? :=
        (earliestSlot? rest).map fun firing =>
          { firing with handle := firing.handle + 1 }
      match slot.alarm?, later? with
      | none, later? =>
          later?
      | some alarm, none =>
          some ⟨0, slot.name, alarm⟩
      | some alarm, some later =>
          if alarm.deadline ≤ later.alarm.deadline then
            some ⟨0, slot.name, alarm⟩
          else
            some later

namespace Table

variable {Work : Type}

/-- The number of slots. -/
def size (table : Table Work) : Nat :=
  table.slots.length

/-- Add a sleeping slot; its handle is the number of slots before. -/
def create
    (table : Table Work)
    (name : String) :
    Nat × Table Work :=
  (table.size, { slots := table.slots ++ [⟨name, none⟩] })

/-- The alarm of a slot. -/
def alarm?
    (table : Table Work)
    (handle : Nat) :
    Option (Alarm Work) :=
  table.slots[handle]?.bind Slot.alarm?

/-- Whether a slot is armed. -/
def isArmed
    (table : Table Work)
    (handle : Nat) :
    Bool :=
  (table.alarm? handle).isSome

/-- Replace the alarm of a slot, if there is such a slot. -/
def replace
    (table : Table Work)
    (handle : Nat)
    (alarm? : Option (Alarm Work)) :
    Table Work where
  slots := table.slots.modify handle fun slot => { slot with alarm? }

/-- Arm a slot, or put it to sleep; the alarm that it had is dropped. -/
def put
    (table : Table Work)
    (handle : Nat)
    (alarm? : Option (Alarm Work)) :
    Except HandleError (Table Work) :=
  if handle < table.size then
    .ok (table.replace handle alarm?)
  else
    .error ⟨.scheduler, handle, table.size⟩

/-- The alarm that fires next. -/
def earliest? (table : Table Work) : Option (Firing Work) :=
  earliestSlot? table.slots

/-- The time to wake up next: at the earliest deadline, but not before the next moment. -/
def nextWakeUp?
    (table : Table Work)
    (now : Nat) :
    Option Nat :=
  table.earliest?.map fun firing => max firing.alarm.deadline.toNat (now + 1)

/-- Take the alarm that is due now; its slot goes to sleep. -/
def takeDue?
    (table : Table Work)
    (now : Nat) :
    Option (Firing Work × Table Work) :=
  match table.earliest? with
  | none =>
      none
  | some firing =>
      if firing.alarm.deadline ≤ (now : Int) then
        some (firing, table.replace firing.handle none)
      else
        none

@[simp]
theorem size_replace
    (table : Table Work)
    (handle : Nat)
    (alarm? : Option (Alarm Work)) :
    (table.replace handle alarm?).size = table.size := by
  simp [size, replace]

/-- Replacing an alarm changes it in a slot of its handle and nothing else. -/
theorem alarm?_replace
    (table : Table Work)
    (handle other : Nat)
    (alarm? : Option (Alarm Work)) :
    (table.replace handle alarm?).alarm? other =
      if handle = other ∧ handle < table.size then alarm? else table.alarm? other := by
  simp only [Table.alarm?, replace, List.getElem?_modify, size]
  by_cases same : handle = other
  · subst same
    by_cases inBounds : handle < table.slots.length
    · simp [inBounds]
    · simp [inBounds]
  · simp [same]

/-- Where there is a slot of the handle, that slot changes. -/
theorem alarm?_replace_of_lt
    {table : Table Work}
    {handle : Nat}
    (known : handle < table.size)
    (other : Nat)
    (alarm? : Option (Alarm Work)) :
    (table.replace handle alarm?).alarm? other =
      if handle = other then alarm? else table.alarm? other := by
  rw [alarm?_replace]
  by_cases same : handle = other
  · rw [if_pos ⟨same, known⟩, if_pos same]
  · rw [if_neg fun both => same both.1, if_neg same]

/-- A new slot comes after all others. -/
theorem size_create
    (table : Table Work)
    (name : String) :
    (table.create name).2.size = table.size + 1 := by
  simp [size, create]

/-- A new slot sleeps, and the other slots keep their alarms. -/
theorem alarm?_create
    (table : Table Work)
    (name : String)
    (handle : Nat) :
    (table.create name).2.alarm? handle = table.alarm? handle := by
  simp only [Table.alarm?, create, List.getElem?_append]
  split
  · rfl
  · rename_i outOfBounds
    rw [List.getElem?_eq_none (Nat.le_of_not_lt outOfBounds)]
    cases found : handle - table.slots.length <;> simp

/-- The next time to wake up lies after now. -/
theorem lt_of_nextWakeUp?_eq_some
    {table : Table Work}
    {now next : Nat}
    (wakeUp : table.nextWakeUp? now = some next) :
    now < next := by
  simp only [nextWakeUp?, Option.map_eq_some_iff] at wakeUp
  obtain ⟨firing, -, rfl⟩ := wakeUp
  omega

end Table

end RefreshRate.Timer
