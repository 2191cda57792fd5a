import RefreshRate.Timer.Table

namespace RefreshRate.Timer

/-!
# Where a due alarm comes from

The alarm that a table hands out when it is due is the alarm of one of its
slots, and only that slot goes to sleep.  No other alarm has an earlier deadline,
and of equal deadlines the lowest handle comes first.  If nothing is handed out,
every deadline is still to come.
-/

/-- The earliest armed slot is the slot of its handle. -/
theorem getElem?_of_earliestSlot?_eq_some
    {Work : Type}
    {slots : List (Slot Work)}
    {firing : Firing Work}
    (found : earliestSlot? slots = some firing) :
    slots[firing.handle]? = some ⟨firing.slotName, some firing.alarm⟩ := by
  induction slots generalizing firing with
  | nil =>
      simp [earliestSlot?] at found
  | cons slot rest inductionHypothesis =>
      rcases slot with ⟨name, slotAlarm?⟩
      cases laterFound : earliestSlot? rest with
      | none =>
          cases slotAlarm? with
          | none =>
              simp [earliestSlot?, laterFound] at found
          | some alarm =>
              simp only [earliestSlot?, laterFound, Option.map_none, Option.some.injEq] at found
              subst found
              rfl
      | some later =>
          have fromRest :
              (⟨name, slotAlarm?⟩ :: rest)[later.handle + 1]? =
                some ⟨later.slotName, some later.alarm⟩ := by
            rw [List.getElem?_cons_succ]
            exact inductionHypothesis laterFound
          cases slotAlarm? with
          | none =>
              simp only [earliestSlot?, laterFound, Option.map_some, Option.some.injEq] at found
              subst found
              exact fromRest
          | some alarm =>
              simp only [earliestSlot?, laterFound, Option.map_some] at found
              split at found
              · cases found
                rfl
              · cases found
                exact fromRest

/-- A firing comes before an alarm, or is the alarm: by deadline first and then by handle. -/
def Firing.Precedes
    {Work : Type}
    (firing : Firing Work)
    (handle : Nat)
    (alarm : Alarm Work) :
    Prop :=
  firing.alarm.deadline < alarm.deadline ∨
    firing.alarm.deadline = alarm.deadline ∧ firing.handle ≤ handle

/-- If no armed slot is found, no slot is armed. -/
theorem alarm?_eq_none_of_earliestSlot?_eq_none
    {Work : Type}
    {slots : List (Slot Work)}
    (notFound : earliestSlot? slots = none)
    {slot : Slot Work}
    (member : slot ∈ slots) :
    slot.alarm? = none := by
  induction slots with
  | nil =>
      cases member
  | cons head rest inductionHypothesis =>
      cases laterFound : earliestSlot? rest with
      | some later =>
          cases headAlarm : head.alarm? with
          | none =>
              simp [earliestSlot?, laterFound, headAlarm] at notFound
          | some alarm =>
              simp only [earliestSlot?, laterFound, headAlarm, Option.map_some] at notFound
              split at notFound
              · cases notFound
              · cases notFound
      | none =>
          cases headAlarm : head.alarm? with
          | some alarm =>
              simp [earliestSlot?, laterFound, headAlarm] at notFound
          | none =>
              rcases List.mem_cons.mp member with rfl | inRest
              · exact headAlarm
              · exact inductionHypothesis laterFound inRest

/-- The earliest armed slot precedes every armed slot. -/
theorem precedes_of_earliestSlot?_eq_some
    {Work : Type}
    {slots : List (Slot Work)}
    {firing : Firing Work}
    (found : earliestSlot? slots = some firing)
    {handle : Nat}
    {slot : Slot Work}
    {alarm : Alarm Work}
    (present : slots[handle]? = some slot)
    (armed : slot.alarm? = some alarm) :
    firing.Precedes handle alarm := by
  induction slots generalizing firing handle with
  | nil =>
      cases present
  | cons head rest inductionHypothesis =>
      cases laterFound : earliestSlot? rest with
      | none =>
          cases handle with
          | succ handle =>
              have inRest : slot ∈ rest := List.mem_of_getElem? present
              have sleeps := alarm?_eq_none_of_earliestSlot?_eq_none laterFound inRest
              cases sleeps.symm.trans armed
          | zero =>
              cases present
              simp only [earliestSlot?, laterFound, armed, Option.map_none,
                Option.some.injEq] at found
              subst found
              exact .inr ⟨rfl, Nat.le_refl 0⟩
      | some later =>
          cases handle with
          | succ handle =>
              have laterPrecedes : later.Precedes handle alarm :=
                inductionHypothesis laterFound present
              simp only [Firing.Precedes] at laterPrecedes ⊢
              cases headAlarm : head.alarm? with
              | none =>
                  simp only [earliestSlot?, laterFound, headAlarm, Option.map_some,
                    Option.some.injEq] at found
                  subst found
                  simp only
                  omega
              | some first =>
                  simp only [earliestSlot?, laterFound, headAlarm, Option.map_some] at found
                  split at found
                  · cases found
                    simp only
                    omega
                  · cases found
                    simp only
                    omega
          | zero =>
              cases present
              simp only [earliestSlot?, laterFound, armed, Option.map_some] at found
              simp only [Firing.Precedes]
              split at found
              · cases found
                exact .inr ⟨rfl, Nat.le_refl 0⟩
              · rename_i notFirst
                cases found
                exact .inl (Int.not_le.mp notFirst)

namespace Table

variable {Work : Type}

/-- The alarm that fires next is the alarm of its slot. -/
theorem alarm?_of_earliest?_eq_some
    {table : Table Work}
    {firing : Firing Work}
    (found : table.earliest? = some firing) :
    table.alarm? firing.handle = some firing.alarm := by
  simp [alarm?, getElem?_of_earliestSlot?_eq_some found]

/-- What is taken was the alarm of its slot, is due, and leaves that slot asleep. -/
theorem takeDue?_eq_some
    {table rest : Table Work}
    {now : Nat}
    {firing : Firing Work}
    (taken : table.takeDue? now = some (firing, rest)) :
    table.alarm? firing.handle = some firing.alarm ∧
      firing.alarm.deadline ≤ (now : Int) ∧
      rest = table.replace firing.handle none := by
  unfold takeDue? at taken
  split at taken
  · cases taken
  · rename_i earliest found
    split at taken
    · rename_i due
      cases taken
      exact ⟨alarm?_of_earliest?_eq_some found, due, rfl⟩
    · cases taken

section Armed

variable
  {table : Table Work}
  {handle : Nat}
  {alarm : Alarm Work}
  (armed : table.alarm? handle = some alarm)

include armed

/-- If some slot is armed, there is an alarm that fires next, and it precedes that slot. -/
theorem exists_earliest?_precedes :
    ∃ firing, table.earliest? = some firing ∧ firing.Precedes handle alarm := by
  obtain ⟨slot, present, slotArmed⟩ := Option.bind_eq_some_iff.mp armed
  cases found : table.earliest? with
  | none =>
      have sleeps :=
        alarm?_eq_none_of_earliestSlot?_eq_none found (List.mem_of_getElem? present)
      cases sleeps.symm.trans slotArmed
  | some firing =>
      exact ⟨firing, rfl, precedes_of_earliestSlot?_eq_some found present slotArmed⟩

/-- What is taken precedes every alarm of the table. -/
theorem precedes_of_takeDue?_eq_some
    {rest : Table Work}
    {now : Nat}
    {firing : Firing Work}
    (taken : table.takeDue? now = some (firing, rest)) :
    firing.Precedes handle alarm := by
  obtain ⟨earliest, found, precedes⟩ := exists_earliest?_precedes armed
  simp only [takeDue?, found] at taken
  split at taken
  · cases taken
    exact precedes
  · cases taken

/-- If nothing is taken, every deadline is still to come. -/
theorem lt_deadline_of_takeDue?_eq_none
    {now : Nat}
    (nothingDue : table.takeDue? now = none) :
    (now : Int) < alarm.deadline := by
  obtain ⟨earliest, found, precedes⟩ := exists_earliest?_precedes armed
  simp only [takeDue?, found] at nothingDue
  split at nothingDue
  · cases nothingDue
  · rename_i notDue
    simp only [Firing.Precedes] at precedes
    omega

end Armed

/-- Between now and the next time to wake up nothing is due. -/
theorem takeDue?_eq_none_of_lt_nextWakeUp
    {table : Table Work}
    {now time : Nat}
    (later : now < time)
    (beforeNext : ∀ next, table.nextWakeUp? now = some next → time < next) :
    table.takeDue? time = none := by
  cases found : table.earliest? with
  | none =>
      simp only [takeDue?, found]
  | some firing =>
      have wakesUp :
          table.nextWakeUp? now = some (max firing.alarm.deadline.toNat (now + 1)) := by
        simp only [nextWakeUp?, found, Option.map_some]
      have timeLess := beforeNext _ wakesUp
      have notDue : ¬firing.alarm.deadline ≤ (time : Int) := by
        omega
      simp only [takeDue?, found, if_neg notDue]

end Table

end RefreshRate.Timer
