import Mathlib.Data.List.Basic
import RefreshRate.Proofs.Timer.Due
import RefreshRate.Proofs.Timer.Operation
import RefreshRate.Timer.Register

namespace RefreshRate.Timer

/-!
# Deadlines and works go together

In a register every entry has a deadline if and only if it has a work: whatever is put into
an entry fills or empties both places, and so does what is taken out.  So a register is a
table of alarms, and a scheduler that keeps deadlines and works apart does what one with a
table does, call by call.
-/

namespace Entry

variable {Work : Type}

/-- The entry as a slot. -/
def slot (entry : Entry Work) : Slot Work :=
  ⟨entry.name, entry.deadline?.bind fun deadline => entry.work?.map (Alarm.mk deadline)⟩

/-- There is a deadline if and only if there is a work. -/
def IsPaired (entry : Entry Work) : Prop :=
  entry.deadline?.isSome = entry.work?.isSome

theorem slot_fill
    (entry : Entry Work)
    (work? : Option Work)
    (deadline : Int) :
    (entry.fill work? deadline).slot =
      { entry.slot with alarm? := work?.map (Alarm.mk deadline) } := by
  cases work? with
  | none =>
      rfl
  | some work =>
      rfl

theorem isPaired_fill
    (entry : Entry Work)
    (work? : Option Work)
    (deadline : Int) :
    (entry.fill work? deadline).IsPaired :=
  Option.isSome_map

theorem isPaired_empty (entry : Entry Work) : entry.empty.IsPaired :=
  rfl

/-- An entry is empty, or it has both a deadline and a work. -/
theorem IsPaired.cases
    {entry : Entry Work}
    (paired : entry.IsPaired) :
    entry = ⟨entry.name, none, none⟩ ∨
      ∃ deadline work, entry = ⟨entry.name, some deadline, some work⟩ := by
  rcases entry with ⟨name, _ | deadline, _ | work⟩
  · exact .inl rfl
  · cases paired
  · cases paired
  · exact .inr ⟨deadline, work, rfl⟩

theorem IsPaired.map_deadline_slot
    {entry : Entry Work}
    (paired : entry.IsPaired) :
    entry.slot.alarm?.map Alarm.deadline = entry.deadline? := by
  rcases paired.cases with isEmpty | ⟨deadline, work, isFull⟩
  · rw [isEmpty]
    rfl
  · rw [isFull]
    rfl

end Entry

/-- The earliest deadline of some slots is the least one. -/
theorem map_deadline_earliestSlot?
    {Work : Type}
    (slots : List (Slot Work)) :
    (earliestSlot? slots).map (fun firing => firing.alarm.deadline) =
      (slots.filterMap fun slot => slot.alarm?.map Alarm.deadline).min? := by
  induction slots with
  | nil =>
      rfl
  | cons slot rest inductionHypothesis =>
      cases headAlarm : slot.alarm? with
      | none =>
          simp only [earliestSlot?, headAlarm, List.filterMap_cons, Option.map_none,
            ← inductionHypothesis, Option.map_map]
          rfl
      | some alarm =>
          simp only [earliestSlot?, headAlarm, List.filterMap_cons, Option.map_some,
            List.min?_cons, ← inductionHypothesis]
          cases earliestSlot? rest with
          | none =>
              rfl
          | some later =>
              simp only [Option.map_some, Option.elim_some]
              split
              · rename_i isFirst
                rw [Int.min_eq_left isFirst]
                rfl
              · rename_i notFirst
                rw [Int.min_eq_right (Int.le_of_not_le notFirst)]
                rfl

/-- What is taken is what fires next, and it is due. -/
theorem Table.earliest?_of_takeDue?_eq_some
    {Work : Type}
    {table rest : Table Work}
    {now : Nat}
    {firing : Firing Work}
    (taken : table.takeDue? now = some (firing, rest)) :
    table.earliest? = some firing ∧ firing.alarm.deadline ≤ (now : Int) := by
  unfold takeDue? at taken
  split at taken
  · cases taken
  · rename_i earliest found
    split at taken
    · rename_i hasCome
      cases taken
      exact ⟨found, hasCome⟩
    · cases taken

namespace Register

variable
  {Work : Type}
  {register : Register Work}

/-- The register as a table. -/
def table (register : Register Work) : Table Work :=
  ⟨register.entries.map Entry.slot⟩

/-- Each entry has a deadline if and only if it has a work. -/
def IsPaired (register : Register Work) : Prop :=
  ∀ entry ∈ register.entries, entry.IsPaired

@[simp]
theorem size_table (register : Register Work) : register.table.size = register.size :=
  List.length_map _

theorem isPaired_new : ({} : Register Work).IsPaired :=
  fun _ member => absurd member List.not_mem_nil

/-- What is done to one entry is done to one slot. -/
theorem map_slot_modify
    {change : Entry Work → Entry Work}
    {alarm? : Option (Alarm Work)}
    (changed : ∀ entry, (change entry).slot = { entry.slot with alarm? })
    (entries : List (Entry Work))
    (handle : Nat) :
    (entries.modify handle change).map Entry.slot =
      (entries.map Entry.slot).modify handle fun slot => { slot with alarm? } := by
  refine List.ext_getElem? fun index => ?_
  simp only [List.getElem?_map, List.getElem?_modify]
  cases entries[index]? with
  | none =>
      rfl
  | some entry =>
      by_cases same : handle = index
      · simp [same, changed]
      · simp [same]

theorem IsPaired.modify
    (paired : register.IsPaired)
    {change : Entry Work → Entry Work}
    (changed : ∀ entry, (change entry).IsPaired)
    (handle : Nat) :
    IsPaired ⟨register.entries.modify handle change⟩ := by
  intro entry member
  obtain ⟨index, found⟩ := List.mem_iff_getElem?.mp member
  rw [List.getElem?_modify, Option.map_eq_map, Option.map_eq_some_iff] at found
  obtain ⟨before, isBefore, rfl⟩ := found
  split
  · exact changed before
  · exact paired before (List.mem_of_getElem? isBefore)

theorem IsPaired.create
    (paired : register.IsPaired)
    (name : String) :
    (register.create name).2.IsPaired := by
  intro entry member
  rcases List.mem_append.mp member with isOld | isNew
  · exact paired entry isOld
  · cases List.mem_singleton.mp isNew
    rfl

/-- A register and its table give a new entry the same handle. -/
theorem create_eq
    (register : Register Work)
    (name : String) :
    register.table.create name = ((register.create name).1, (register.create name).2.table) := by
  simp [Table.create, Register.create, table, Table.size, size, Entry.slot]

theorem table_create
    (register : Register Work)
    (name : String) :
    (register.create name).2.table = (register.table.create name).2 := by
  rw [create_eq]

/-- A register and its table refuse the same handles. -/
theorem set_eq
    (register : Register Work)
    (handle : Nat)
    (work? : Option Work)
    (deadline : Int) :
    (register.set handle work? deadline).map table =
      register.table.put handle (work?.map (Alarm.mk deadline)) := by
  rw [Register.set, Table.put, size_table]
  split
  · exact
      congrArg (fun slots => Except.ok (Table.mk slots))
        (map_slot_modify (fun entry => entry.slot_fill work? deadline) register.entries handle)
  · rfl

theorem table_of_set_eq_ok
    {later : Register Work}
    {handle : Nat}
    {work? : Option Work}
    {deadline : Int}
    (isSet : register.set handle work? deadline = .ok later) :
    handle < register.size ∧
      later.table = register.table.replace handle (work?.map (Alarm.mk deadline)) := by
  have put := register.set_eq handle work? deadline
  rw [isSet, Table.put, size_table] at put
  split at put
  · rename_i known
    exact ⟨known, Except.ok.inj put⟩
  · cases put

theorem IsPaired.set
    (paired : register.IsPaired)
    {later : Register Work}
    {handle : Nat}
    {work? : Option Work}
    {deadline : Int}
    (isSet : register.set handle work? deadline = .ok later) :
    later.IsPaired := by
  rw [Register.set] at isSet
  split at isSet
  · cases isSet
    exact paired.modify (fun entry => entry.isPaired_fill work? deadline) handle
  · cases isSet

/-- An entry has a deadline where the slot has an alarm. -/
theorem IsPaired.isArmed_eq
    (paired : register.IsPaired)
    (handle : Nat) :
    register.isArmed handle = register.table.isArmed handle := by
  rw [isArmed, Table.isArmed, Table.alarm?, table, List.getElem?_map]
  cases found : register.entries[handle]? with
  | none =>
      rfl
  | some entry =>
      have sameDeadline := (paired entry (List.mem_of_getElem? found)).map_deadline_slot
      rw [Option.any_some, ← sameDeadline, Option.isSome_map]
      rfl

theorem IsPaired.filterMap_deadline
    (paired : register.IsPaired) :
    (register.table.slots.filterMap fun slot => slot.alarm?.map Alarm.deadline) =
      register.entries.filterMap Entry.deadline? := by
  rw [table, List.filterMap_map]
  exact List.filterMap_congr fun entry member => (paired entry member).map_deadline_slot

/-- A register and its table wake up at the same time. -/
theorem IsPaired.nextWakeUp?_eq
    (paired : register.IsPaired)
    (now : Nat) :
    register.nextWakeUp? now = register.table.nextWakeUp? now := by
  have least := map_deadline_earliestSlot? register.table.slots
  rw [paired.filterMap_deadline] at least
  rw [nextWakeUp?, Table.nextWakeUp?, ← least, Table.earliest?, Option.map_map]
  refine congrArg (Option.map · (earliestSlot? register.table.slots)) (funext fun firing => ?_)
  simp only [Function.comp_apply]
  split
  · omega
  · omega

/-- Of two picks the first one is kept unless the second has an earlier deadline. -/
def earlier (best later : Nat × Int) : Nat × Int :=
  if later.2 < best.2 then later else best

instance : Std.Associative earlier where
  assoc first second third := by
    simp only [earlier]
    grind

/-- What the search among entries has to find: the earliest alarm of the slots, if it has come. -/
def due?
    (now index : Nat)
    (slots : List (Slot Work)) :
    Option (Nat × Int) :=
  (earliestSlot? slots).bind fun firing =>
    if firing.alarm.deadline ≤ (now : Int) then
      some (index + firing.handle, firing.alarm.deadline)
    else
      none

theorem due?_cons_asleep
    {slot : Slot Work}
    (asleep : slot.alarm? = none)
    (now index : Nat)
    (rest : List (Slot Work)) :
    due? now index (slot :: rest) = due? now (index + 1) rest := by
  simp only [due?, earliestSlot?, asleep]
  cases earliestSlot? rest with
  | none =>
      rfl
  | some later =>
      simp only [Option.map_some, Option.bind_some]
      rw [Nat.add_assoc, Nat.add_comm 1]

theorem due?_cons_armed
    {slot : Slot Work}
    {alarm : Alarm Work}
    (armed : slot.alarm? = some alarm)
    (now index : Nat)
    (rest : List (Slot Work)) :
    due? now index (slot :: rest) =
      Option.merge earlier
        (if alarm.deadline ≤ (now : Int) then some (index, alarm.deadline) else none)
        (due? now (index + 1) rest) := by
  simp only [due?, earliestSlot?, armed]
  cases earliestSlot? rest with
  | none =>
      simp only [Option.map_none, Option.bind_some, Option.bind_none, Option.merge_none_right]
      rfl
  | some later =>
      have shifted : index + (later.handle + 1) = index + 1 + later.handle := by
        omega
      by_cases hasCome : alarm.deadline ≤ (now : Int)
      · by_cases isFirst : alarm.deadline ≤ later.alarm.deadline
        · simp only [Option.map_some, Option.bind_some, if_pos hasCome, if_pos isFirst]
          split
          · rw [Option.merge_some_some, earlier, if_neg (Int.not_lt.mpr isFirst)]
            rfl
          · rfl
        · have better := Int.not_le.mp isFirst
          have laterHasCome := Int.le_trans (Int.le_of_lt better) hasCome
          simp only [Option.map_some, Option.bind_some, if_pos hasCome, if_neg isFirst,
            if_pos laterHasCome, shifted]
          rw [Option.merge_some_some, earlier, if_pos better]
      · by_cases isFirst : alarm.deadline ≤ later.alarm.deadline
        · have notCome : ¬later.alarm.deadline ≤ (now : Int) :=
            fun laterHasCome => hasCome (Int.le_trans isFirst laterHasCome)
          simp only [Option.map_some, Option.bind_some, if_neg hasCome, if_pos isFirst,
            if_neg notCome, Option.merge_none_right]
        · simp only [Option.map_some, Option.bind_some, if_neg hasCome, if_neg isFirst,
            Option.merge_none_left, shifted]

/-- An entry that is looked at takes the place of one that was found before. -/
theorem better_eq
    (now index : Nat)
    (deadline : Int)
    (best? : Option (Nat × Int)) :
    (if deadline ≤ (now : Int) ∧ best?.all (fun best => deadline < best.2) then
        some (index, deadline)
      else
        best?) =
      Option.merge earlier best?
        (if deadline ≤ (now : Int) then some (index, deadline) else none) := by
  by_cases hasCome : deadline ≤ (now : Int)
  · cases best? with
    | none =>
        simp [hasCome]
    | some best =>
        by_cases isEarlier : deadline < best.2
        · simp [hasCome, earlier, isEarlier]
        · simp [hasCome, earlier, isEarlier]
  · simp [hasCome]

/-- The search finds the earliest alarm of the slots, unless an earlier one was found before. -/
theorem pickFrom_eq
    {entries : List (Entry Work)}
    (paired : ∀ entry ∈ entries, entry.IsPaired)
    (now index : Nat)
    (best? : Option (Nat × Int)) :
    pickFrom now index best? entries =
      Option.merge earlier best? (due? now index (entries.map Entry.slot)) := by
  induction entries generalizing index best? with
  | nil =>
      exact Option.merge_none_right.symm
  | cons entry rest inductionHypothesis =>
      obtain ⟨headPaired, restPaired⟩ := List.forall_mem_cons.mp paired
      rw [pickFrom, inductionHypothesis restPaired, List.map_cons]
      rcases headPaired.cases with isEmpty | ⟨deadline, work, isFull⟩
      · have asleep : entry.slot.alarm? = none := by
          rw [isEmpty]
          rfl
        have noDeadline : entry.deadline? = none := by
          rw [isEmpty]
        rw [due?_cons_asleep asleep, noDeadline]
      · have armed : entry.slot.alarm? = some ⟨deadline, work⟩ := by
          rw [isFull]
          rfl
        have hasDeadline : entry.deadline? = some deadline := by
          rw [isFull]
        have better := better_eq now index deadline best?
        rw [due?_cons_armed armed, hasDeadline]
        exact
          (congrArg (Option.merge earlier · _) better).trans (Std.Associative.assoc best? _ _)

section Firing

variable
  (paired : register.IsPaired)
  {now : Nat}

include paired

/-- The pick is the handle and the deadline of what the table hands out. -/
theorem IsPaired.pickFrom_eq_due? :
    pickFrom now 0 none register.entries = due? now 0 register.table.slots := by
  rw [pickFrom_eq paired, Option.merge_none_left]
  rfl

theorem IsPaired.fireOne_of_takeDue?_eq_none
    (nothingDue : register.table.takeDue? now = none) :
    register.fireOne now = (none, register) := by
  have nothingPicked : pickFrom now 0 none register.entries = none := by
    rw [paired.pickFrom_eq_due?, due?]
    simp only [Table.takeDue?, Table.earliest?] at nothingDue
    cases found : earliestSlot? register.table.slots with
    | none =>
        rfl
    | some firing =>
        simp only [found] at nothingDue
        split at nothingDue
        · cases nothingDue
        · rename_i notCome
          exact if_neg notCome
  rw [fireOne, nothingPicked]

/-- What the table hands out is done, and the rest stays paired. -/
theorem IsPaired.fireOne_of_takeDue?_eq_some
    {firing : Firing Work}
    {rest : Table Work}
    (taken : register.table.takeDue? now = some (firing, rest)) :
    ∃ later, register.fireOne now = (some firing, later) ∧ later.IsPaired ∧ later.table = rest := by
  obtain ⟨found, hasCome⟩ := Table.earliest?_of_takeDue?_eq_some taken
  obtain ⟨-, -, rfl⟩ := Table.takeDue?_eq_some taken
  have picked :
      pickFrom now 0 none register.entries = some (firing.handle, firing.alarm.deadline) := by
    rw [paired.pickFrom_eq_due?, due?, ← Table.earliest?, found, Option.bind_some, if_pos hasCome,
      Nat.zero_add]
  obtain ⟨entry, atHandle, isSlot⟩ :=
    List.getElem?_map.symm.trans (getElem?_of_earliestSlot?_eq_some found)
      |> Option.map_eq_some_iff.mp
  refine ⟨_, ?_, paired.modify Entry.isPaired_empty firing.handle, ?_⟩
  · rw [fireOne, picked]
    rcases entry with ⟨name, _ | deadline, _ | work⟩
    · cases isSlot
    · cases isSlot
    · cases isSlot
    · obtain ⟨handle, slotName, alarm⟩ := firing
      cases isSlot
      simp only [atHandle, Option.bind_some, Option.map_some]
  · exact congrArg Table.mk (map_slot_modify (fun _ => rfl) register.entries firing.handle)

/-- A paired register hands out what its table does, or both hand out nothing. -/
theorem IsPaired.fireOne_cases
    (now : Nat) :
    (register.table.takeDue? now = none ∧ register.fireOne now = (none, register)) ∨
      ∃ firing later,
        register.fireOne now = (some firing, later) ∧
          later.IsPaired ∧ register.table.takeDue? now = some (firing, later.table) := by
  cases taken : register.table.takeDue? now with
  | none =>
      exact .inl ⟨rfl, paired.fireOne_of_takeDue?_eq_none taken⟩
  | some both =>
      obtain ⟨firing, rest⟩ := both
      obtain ⟨later, fired, isPaired, rfl⟩ := paired.fireOne_of_takeDue?_eq_some taken
      exact .inr ⟨firing, later, fired, isPaired, rfl⟩

end Firing

end Register

end RefreshRate.Timer
