import Mathlib.Data.List.Count
import RefreshRate.Proofs.Timer.Due

namespace RefreshRate.Timer

/-!
# How late an alarm can be

One alarm fires in each millisecond.  An alarm that is due can only be kept waiting
by the alarms that come before it, and each millisecond takes one of them away: that
bounds how late it can be.  An alarm whose deadline is still to come has time for all
others to go first.  In the same way a table in which nothing is armed any more runs
empty.
-/

/-- More elements are counted when one that was not counted is. -/
theorem countP_lt_countP_of_imp
    {Element : Type}
    {fewer more : Element → Bool}
    {items : List Element}
    {added : Element}
    (implies : ∀ item ∈ items, fewer item = true → more item = true)
    (member : added ∈ items)
    (notBefore : fewer added = false)
    (now : more added = true) :
    items.countP fewer < items.countP more := by
  induction items with
  | nil =>
      cases member
  | cons head rest inductionHypothesis =>
      have restImplies :
          ∀ item ∈ rest, fewer item = true → more item = true :=
        fun item inRest => implies item (List.mem_cons_of_mem head inRest)
      have restLe : rest.countP fewer ≤ rest.countP more := List.countP_mono_left restImplies
      rcases List.mem_cons.mp member with rfl | inRest
      · simp only [List.countP_cons, notBefore, now, if_true]
        simp only [Bool.false_eq_true, if_false]
        omega
      · have restLess := inductionHypothesis restImplies inRest
        have headImplies := implies head List.mem_cons_self
        simp only [List.countP_cons]
        cases before : fewer head with
        | false =>
            simp only [Bool.false_eq_true, if_false]
            omega
        | true =>
            simp only [headImplies before, if_true]
            omega

namespace Table

variable
  {Work : Type}
  {table rest : Table Work}
  {handle now grace : Nat}
  {alarm : Alarm Work}

theorem lt_size_of_alarm?_eq_some
    (armed : table.alarm? handle = some alarm) :
    handle < table.size := by
  obtain ⟨slot, present, -⟩ := Option.bind_eq_some_iff.mp armed
  exact (List.getElem?_eq_some_iff.mp present).1

/-- Whether a slot is armed with an alarm that comes before a given one. -/
def isRival
    (table : Table Work)
    (handle : Nat)
    (alarm : Alarm Work)
    (other : Nat) :
    Bool :=
  (table.alarm? other).any fun rival =>
    decide (rival.deadline < alarm.deadline ∨ rival.deadline = alarm.deadline ∧ other < handle)

/-- The number of slots that fire before an alarm. -/
def rivals
    (table : Table Work)
    (handle : Nat)
    (alarm : Alarm Work) :
    Nat :=
  (List.range table.size).countP (table.isRival handle alarm)

/-- The number of armed slots. -/
def armed (table : Table Work) : Nat :=
  (List.range table.size).countP table.isArmed

/-- No alarm waits for longer than a given time, with those counted that come before it. -/
def IsPunctual
    (table : Table Work)
    (grace now : Nat) :
    Prop :=
  ∀ handle alarm,
    table.alarm? handle = some alarm →
      (now : Int) + table.rivals handle alarm ≤ alarm.deadline + grace

/-- No alarm has a deadline after the limit, and there is time for each of them. -/
structure RunsEmpty (table : Table Work) (limit now remaining : Nat) : Prop where
  deadline_le :
    ∀ {handle alarm},
      table.alarm? handle = some alarm →
        alarm.deadline ≤ (limit : Int)
  enough : max limit (now + 1) + table.armed ≤ now + 1 + remaining

theorem isRival_eq_true_iff
    {other : Nat} :
    table.isRival handle alarm other = true ↔
      ∃ rival,
        table.alarm? other = some rival ∧
          (rival.deadline < alarm.deadline ∨
            rival.deadline = alarm.deadline ∧ other < handle) := by
  simp [isRival, Option.any_eq_true]

/-- An alarm is not its own rival, so there are fewer rivals than slots. -/
theorem rivals_lt_size
    (armed : table.alarm? handle = some alarm) :
    table.rivals handle alarm < table.size := by
  have notOwnRival : table.isRival handle alarm handle = false := by
    simp [isRival, armed]
  have inRange : handle ∈ List.range table.size :=
    List.mem_range.mpr (lt_size_of_alarm?_eq_some armed)
  have less : table.rivals handle alarm < (List.range table.size).countP fun _ => true :=
    countP_lt_countP_of_imp (fun _ _ _ => rfl) inRange notOwnRival rfl
  rwa [List.countP_true, List.length_range] at less

/-- With fewer alarms before an alarm it has fewer rivals. -/
theorem rivals_le_of_imp
    {other : Table Work}
    (sameSize : other.size = table.size)
    (implies :
      ∀ rival,
        other.isRival handle alarm rival = true →
          table.isRival handle alarm rival = true) :
    other.rivals handle alarm ≤ table.rivals handle alarm := by
  unfold rivals
  rw [sameSize]
  exact List.countP_mono_left fun rival _ => implies rival

theorem armed_le_size (table : Table Work) : table.armed ≤ table.size := by
  have bound := List.countP_le_length (p := table.isArmed) (l := List.range table.size)
  rwa [List.length_range] at bound

theorem alarm?_eq_none_of_armed_eq_zero
    (noneArmed : table.armed = 0)
    (handle : Nat) :
    table.alarm? handle = none := by
  cases found : table.alarm? handle with
  | none =>
      rfl
  | some alarm =>
      have inRange := List.mem_range.mpr (lt_size_of_alarm?_eq_some found)
      have notArmed := List.countP_eq_zero.mp noneArmed handle inRange
      simp [isArmed, found] at notArmed

/-- Putting a slot to sleep adds no rivals. -/
theorem isRival_replace_none
    {slept other : Nat}
    (isRival : (table.replace slept none).isRival handle alarm other = true) :
    table.isRival handle alarm other = true := by
  obtain ⟨rival, found, before⟩ := isRival_eq_true_iff.mp isRival
  rw [alarm?_replace] at found
  split at found
  · cases found
  · exact isRival_eq_true_iff.mpr ⟨rival, found, before⟩

theorem IsPunctual.deadline_le
    (isPunctual : table.IsPunctual grace now)
    (armed : table.alarm? handle = some alarm) :
    (now : Int) ≤ alarm.deadline + grace := by
  have bound := isPunctual handle alarm armed
  omega

/-- Putting a slot to sleep keeps a table punctual. -/
theorem IsPunctual.replace_none
    (isPunctual : table.IsPunctual grace now)
    (slept : Nat) :
    (table.replace slept none).IsPunctual grace now := by
  intro handle alarm armed
  rw [alarm?_replace] at armed
  split at armed
  · cases armed
  · have bound := isPunctual handle alarm armed
    have fewer : (table.replace slept none).rivals handle alarm ≤ table.rivals handle alarm :=
      rivals_le_of_imp (size_replace ..) fun _ => isRival_replace_none
    omega

/-- Arming a slot with a deadline that leaves time for all others keeps a table punctual. -/
theorem IsPunctual.replace_some
    {replaced : Nat}
    {fresh : Alarm Work}
    (isPunctual : table.IsPunctual grace now)
    (inTime : (now : Int) + table.size ≤ fresh.deadline + grace + 1) :
    (table.replace replaced (some fresh)).IsPunctual grace now := by
  intro handle alarm armed
  have fewRivals := rivals_lt_size armed
  rw [size_replace] at fewRivals
  by_cases late : fresh.deadline ≤ alarm.deadline
  · omega
  · -- the new alarm comes later, so it is no rival and the others are as before
    have isOld : table.alarm? handle = some alarm := by
      rw [alarm?_replace] at armed
      split at armed
      · cases armed
        omega
      · exact armed
    have bound := isPunctual handle alarm isOld
    have fewer :
        (table.replace replaced (some fresh)).rivals handle alarm ≤ table.rivals handle alarm := by
      refine rivals_le_of_imp (size_replace ..) fun other isRival => ?_
      obtain ⟨rival, found, before⟩ := isRival_eq_true_iff.mp isRival
      rw [alarm?_replace] at found
      split at found
      · cases found
        omega
      · exact isRival_eq_true_iff.mpr ⟨rival, found, before⟩
    omega

/-- Where nothing is due a table is punctual. -/
theorem IsPunctual.of_nothingDue
    (roomy : table.size ≤ grace + 2)
    (nothingDue : table.takeDue? now = none) :
    table.IsPunctual grace now := by
  intro handle alarm armed
  have ahead := lt_deadline_of_takeDue?_eq_none armed nothingDue
  have fewRivals := rivals_lt_size armed
  omega

theorem IsPunctual.mono
    (isPunctual : table.IsPunctual grace now) :
    table.IsPunctual (grace + 1) now := by
  intro handle alarm armed
  have bound := isPunctual handle alarm armed
  omega

/-- A millisecond makes all alarms wait. -/
theorem IsPunctual.goOn
    (isPunctual : table.IsPunctual grace now) :
    table.IsPunctual (grace + 1) (now + 1) := by
  intro handle alarm armed
  have bound := isPunctual handle alarm armed
  omega

/-- When an alarm fires every other alarm loses a rival. -/
theorem IsPunctual.takeDue?
    {firing : Firing Work}
    (isPunctual : table.IsPunctual (grace + 1) now)
    (taken : table.takeDue? now = some (firing, rest)) :
    rest.IsPunctual grace now := by
  obtain ⟨wasArmed, -, rfl⟩ := takeDue?_eq_some taken
  intro handle alarm armed
  have inTable := lt_size_of_alarm?_eq_some wasArmed
  rw [alarm?_replace] at armed
  split at armed
  · cases armed
  · rename_i notTaken
    have bound := isPunctual handle alarm armed
    have precedes := precedes_of_takeDue?_eq_some armed taken
    have wasRival : table.isRival handle alarm firing.handle = true := by
      refine isRival_eq_true_iff.mpr ⟨firing.alarm, wasArmed, ?_⟩
      have otherHandle : firing.handle ≠ handle := fun same => notTaken ⟨same, inTable⟩
      simp only [Firing.Precedes] at precedes
      omega
    have noRivalNow :
        (table.replace firing.handle none).isRival handle alarm firing.handle = false := by
      simp [isRival, alarm?_replace, inTable]
    have fewer :
        (table.replace firing.handle none).rivals handle alarm < table.rivals handle alarm := by
      unfold rivals
      rw [size_replace]
      exact
        countP_lt_countP_of_imp (fun _ _ => isRival_replace_none) (List.mem_range.mpr inTable)
          noRivalNow wasRival
    omega

/-- An alarm that fires leaves fewer slots armed. -/
theorem armed_lt_of_takeDue?_eq_some
    {firing : Firing Work}
    (taken : table.takeDue? now = some (firing, rest)) :
    rest.armed < table.armed := by
  obtain ⟨wasArmed, -, rfl⟩ := takeDue?_eq_some taken
  have inTable := lt_size_of_alarm?_eq_some wasArmed
  unfold armed
  rw [size_replace]
  refine countP_lt_countP_of_imp ?_ (List.mem_range.mpr inTable) ?_ ?_
  · intro handle _ stillArmed
    simp only [isArmed, alarm?_replace] at stillArmed ⊢
    split at stillArmed
    · cases stillArmed
    · exact stillArmed
  · simp [isArmed, alarm?_replace, inTable]
  · simp [isArmed, wasArmed]

namespace RunsEmpty

variable {limit remaining : Nat}

theorem of_nothingDue
    (runsEmpty : table.RunsEmpty limit now (remaining + 1))
    (nothingDue : table.takeDue? (now + 1) = none) :
    table.RunsEmpty limit (now + 1) remaining := by
  have enough := runsEmpty.enough
  refine ⟨runsEmpty.deadline_le, ?_⟩
  by_cases noneArmed : table.armed = 0
  · omega
  · -- whatever is armed has a deadline to come, and so has the limit
    obtain ⟨handle, -, isArmed⟩ := List.countP_pos_iff.mp (Nat.pos_of_ne_zero noneArmed)
    obtain ⟨alarm, found⟩ := Option.isSome_iff_exists.mp isArmed
    have ahead := lt_deadline_of_takeDue?_eq_none found nothingDue
    have withinLimit := runsEmpty.deadline_le found
    omega

theorem takeDue?
    {firing : Firing Work}
    (runsEmpty : table.RunsEmpty limit now (remaining + 1))
    (taken : table.takeDue? (now + 1) = some (firing, rest)) :
    rest.RunsEmpty limit (now + 1) remaining := by
  have enough := runsEmpty.enough
  have fewer := armed_lt_of_takeDue?_eq_some taken
  obtain ⟨-, -, rfl⟩ := takeDue?_eq_some taken
  refine ⟨?_, by omega⟩
  intro handle alarm armed
  rw [alarm?_replace] at armed
  split at armed
  · cases armed
  · exact runsEmpty.deadline_le armed

theorem alarm?_eq_none
    (runsEmpty : table.RunsEmpty limit now 0)
    (handle : Nat) :
    table.alarm? handle = none := by
  have enough := runsEmpty.enough
  exact alarm?_eq_none_of_armed_eq_zero (by omega) handle

end RunsEmpty

end Table

end RefreshRate.Timer
