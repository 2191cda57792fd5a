import Mathlib.Data.List.Induction
import RefreshRate.Proofs.Timer.Lateness
import RefreshRate.Proofs.Timer.Operation

namespace RefreshRate.Timer

/-!
# The record of a bench

The table of a bench can be read off its record: a slot holds the work that it has
accepted last, unless that work was begun or the slot was cleared after it.  Whatever
is begun was held by its slot just before, so no work is begun that was not accepted,
and none is begun twice.
-/

namespace Event

variable {event : Event} {handle : Nat}

/-- Whether a slot holds something else after the event. -/
def concerns
    (handle : Nat) :
    Event → Bool
  | .replaced _ other _ =>
      decide (other = handle)
  | .fired _ firing =>
      decide (firing.handle = handle)
  | .panicked _ =>
      false

/-- The time of an event, where it is recorded. -/
def time? : Event → Option Nat
  | .replaced time _ _ | .fired time _ =>
      some time
  | .panicked _ =>
      none

/-- The work that a slot accepts. -/
def accepted?
    (handle : Nat) :
    Event → Option (Alarm Work)
  | .replaced _ other alarm? =>
      if other = handle then alarm? else none
  | .fired _ _ | .panicked _ =>
      none

/-- The work of a slot that is begun. -/
def begun?
    (handle : Nat) :
    Event → Option (Alarm Work)
  | .fired _ firing =>
      if firing.handle = handle then some firing.alarm else none
  | .replaced _ _ _ | .panicked _ =>
      none

/-- What a slot holds after an event, with the time at which it was set. -/
def hold
    (handle : Nat)
    (held : Option (Nat × Alarm Work)) :
    Event → Option (Nat × Alarm Work)
  | .replaced time other alarm? =>
      if other = handle then alarm?.map fun alarm => (time, alarm) else held
  | .fired _ firing =>
      if firing.handle = handle then none else held
  | .panicked _ =>
      held

theorem hold_of_not_concerns
    (untouched : event.concerns handle = false)
    (held : Option (Nat × Alarm Work)) :
    hold handle held event = held := by
  cases event with
  | replaced time other alarm? =>
      exact if_neg (of_decide_eq_false untouched)
  | fired time firing =>
      exact if_neg (of_decide_eq_false untouched)
  | panicked slotName =>
      rfl

theorem map_snd_hold_replaced
    (held : Option (Nat × Alarm Work))
    (time other : Nat)
    (alarm? : Option (Alarm Work)) :
    (hold handle held (.replaced time other alarm?)).map Prod.snd =
      if other = handle then alarm? else held.map Prod.snd := by
  rw [hold]
  split
  · rw [Option.map_map]
    cases alarm? with
    | none =>
        rfl
    | some alarm =>
        rfl
  · rfl

theorem map_snd_hold_fired
    (held : Option (Nat × Alarm Work))
    (time : Nat)
    (firing : Firing Work) :
    (hold handle held (.fired time firing)).map Prod.snd =
      if firing.handle = handle then none else held.map Prod.snd := by
  rw [hold]
  split
  · rfl
  · rfl

/-- Only the event that sets a work makes a slot hold it. -/
theorem eq_replaced_of_hold_eq_some
    {held : Option (Nat × Alarm Work)}
    {time : Nat}
    {alarm : Alarm Work}
    (concerned : event.concerns handle = true)
    (holds : hold handle held event = some (time, alarm)) :
    event = .replaced time handle (some alarm) := by
  cases event with
  | replaced time other alarm? =>
      have same : other = handle := of_decide_eq_true concerned
      rw [hold, if_pos same, Option.map_eq_some_iff] at holds
      obtain ⟨alarm, rfl, isHeld⟩ := holds
      cases isHeld
      rw [same]
  | fired time firing =>
      rw [hold, if_pos (of_decide_eq_true concerned)] at holds
      cases holds
  | panicked slotName =>
      cases concerned

end Event

/-- What a slot holds after some events, with the time at which it was set. -/
def held
    (handle : Nat)
    (events : List Event) :
    Option (Nat × Alarm Work) :=
  events.foldl (Event.hold handle) none

/-- A slot was set at some time, and nothing has concerned it since. -/
def HoldsSince
    (events : List Event)
    (handle time : Nat)
    (alarm : Alarm Work) :
    Prop :=
  ∃ before after,
    events = before ++ .replaced time handle (some alarm) :: after ∧
      ∀ event ∈ after, event.concerns handle = false

theorem held_concat
    (handle : Nat)
    (events : List Event)
    (event : Event) :
    held handle (events ++ [event]) = Event.hold handle (held handle events) event := by
  rw [held, List.foldl_append]
  rfl

theorem held_eq_some_iff
    {handle time : Nat}
    {alarm : Alarm Work}
    {events : List Event} :
    held handle events = some (time, alarm) ↔ HoldsSince events handle time alarm := by
  constructor
  · intro holds
    induction events using List.reverseRecOn with
    | nil =>
        cases holds
    | append_singleton events event inductionHypothesis =>
        rw [held_concat] at holds
        by_cases concerned : event.concerns handle = true
        · have isReplaced := Event.eq_replaced_of_hold_eq_some concerned holds
          subst isReplaced
          exact ⟨events, [], rfl, fun _ member => absurd member List.not_mem_nil⟩
        · have untouched := eq_false_of_ne_true concerned
          rw [Event.hold_of_not_concerns untouched] at holds
          obtain ⟨before, after, rfl, quiet⟩ := inductionHypothesis holds
          refine ⟨before, after ++ [event], by simp, ?_⟩
          intro other member
          rcases List.mem_append.mp member with inAfter | isLast
          · exact quiet other inAfter
          · rw [List.mem_singleton.mp isLast]
            exact untouched
  · rintro ⟨before, after, rfl, quiet⟩
    have kept :
        ∀ event ∈ after, ∀ held, Event.hold handle held event = held :=
      fun event member => Event.hold_of_not_concerns (quiet event member)
    have atSet :
        Event.hold handle (held handle before) (.replaced time handle (some alarm)) =
          some (time, alarm) := by
      simp [Event.hold]
    rw [held, List.foldl_append, List.foldl_cons]
    exact
      List.foldlRecOn (motive := fun holds => holds = some (time, alarm)) after _ atSet
        fun holds isHeld event member => (kept event member holds).trans isHeld

namespace Bench

variable {bench later : Bench}

/-- The works that a slot has accepted. -/
def accepted
    (bench : Bench)
    (handle : Nat) :
    List (Alarm Work) :=
  bench.history.filterMap (Event.accepted? handle)

/-- The works that were begun from a slot. -/
def begun
    (bench : Bench)
    (handle : Nat) :
    List (Alarm Work) :=
  bench.history.filterMap (Event.begun? handle)

/-- What is read off a record grows with it. -/
theorem filterMap_of_history
    {Told : Type}
    {event : Event}
    (told? : Event → Option Told)
    (history : later.history = bench.history ++ [event]) :
    later.history.filterMap told? = bench.history.filterMap told? ++ (told? event).toList := by
  rw [history, List.filterMap_append]
  cases told : told? event with
  | none =>
      rw [List.filterMap_cons_none told]
      rfl
  | some fact =>
      rw [List.filterMap_cons_some told]
      rfl

/-- The record of a bench accounts for its table, and for every work that was begun. -/
structure Recorded (bench : Bench) : Prop where
  inPast :
    ∀ event ∈ bench.history,
      ∀ time,
        event.time? = some time →
          time ≤ bench.now
  alarm? :
    ∀ handle, bench.table.alarm? handle = (held handle bench.history).map Prod.snd
  wasHeld :
    ∀ before time firing,
      before ++ [.fired time firing] <+: bench.history →
        ∃ set,
          held firing.handle before = some (set, firing.alarm) ∧
            set < time ∧ firing.alarm.deadline ≤ (time : Int)
  inOrder : bench.fired.Pairwise fun earlier later => earlier.1 < later.1
  sublist :
    ∀ handle,
      (bench.begun handle ++ (bench.table.alarm? handle).toList).Sublist
        (bench.accepted handle)

namespace Recorded

theorem new : Recorded {} where
  inPast event member := absurd member List.not_mem_nil
  alarm? _ := rfl
  wasHeld before time firing recorded := by
    have isEmpty := List.prefix_nil.mp recorded
    simp at isEmpty
  inOrder := List.Pairwise.nil
  sublist _ := .slnil

/-- Only the record, the alarms and the clock matter. -/
theorem of_same
    (recorded : Recorded bench)
    (sameHistory : later.history = bench.history)
    (sameAlarm : ∀ handle, later.table.alarm? handle = bench.table.alarm? handle)
    (now_le : bench.now ≤ later.now) :
    Recorded later := by
  refine ⟨?_, ?_, ?_, ?_, ?_⟩
  · intro event member time isTime
    rw [sameHistory] at member
    exact Nat.le_trans (recorded.inPast event member time isTime) now_le
  · intro handle
    rw [sameAlarm, sameHistory]
    exact recorded.alarm? handle
  · rw [sameHistory]
    exact recorded.wasHeld
  · rw [fired, sameHistory]
    exact recorded.inOrder
  · intro handle
    rw [begun, accepted, sameHistory, sameAlarm]
    exact recorded.sublist handle

/-- Whatever a slot holds was set by now. -/
theorem le_now_of_held
    (recorded : Recorded bench)
    {handle time : Nat}
    {alarm : Alarm Work}
    (holds : held handle bench.history = some (time, alarm)) :
    time ≤ bench.now := by
  obtain ⟨before, after, split, -⟩ := held_eq_some_iff.mp holds
  have member : .replaced time handle (some alarm) ∈ bench.history := by
    rw [split]
    exact List.mem_append_right before List.mem_cons_self
  exact recorded.inPast _ member time rfl

/-- Whatever was begun was begun by now. -/
theorem le_now_of_mem_fired
    (recorded : Recorded bench)
    {earlier : Nat × String}
    (wasFired : earlier ∈ bench.fired) :
    earlier.1 ≤ bench.now := by
  obtain ⟨event, member, isFired⟩ := List.mem_filterMap.mp wasFired
  cases event with
  | fired time firing =>
      cases isFired
      exact recorded.inPast _ member time rfl
  | replaced time handle alarm? =>
      cases isFired
  | panicked slotName =>
      cases isFired

section Adding

variable
  {event : Event}
  (recorded : Recorded bench)
  (history : later.history = bench.history ++ [event])
  (alarmAfter :
    ∀ handle,
      later.table.alarm? handle =
        (Event.hold handle (held handle bench.history) event).map Prod.snd)
  (wasDue :
    ∀ time firing,
      event = .fired time firing →
        bench.now < time ∧
          firing.alarm.deadline ≤ (time : Int) ∧
            bench.table.alarm? firing.handle = some firing.alarm)

include recorded history wasDue

theorem wasHeld_add
    (before : List Event)
    (time : Nat)
    (firing : Firing Work)
    (isBefore : before ++ [.fired time firing] <+: later.history) :
    ∃ set,
      held firing.handle before = some (set, firing.alarm) ∧
        set < time ∧ firing.alarm.deadline ≤ (time : Int) := by
  rw [history, List.prefix_concat_iff] at isBefore
  rcases isBefore with isLast | isOld
  · obtain ⟨rfl, isEvent⟩ := List.append_inj' isLast rfl
    obtain ⟨isLater, due, armed⟩ := wasDue time firing (List.cons.inj isEvent).1.symm
    rw [recorded.alarm?, Option.map_eq_some_iff] at armed
    obtain ⟨⟨set, alarm⟩, holds, rfl⟩ := armed
    exact ⟨set, holds, Nat.lt_of_le_of_lt (recorded.le_now_of_held holds) isLater, due⟩
  · exact recorded.wasHeld before time firing isOld

theorem inOrder_add : later.fired.Pairwise fun earlier later => earlier.1 < later.1 := by
  rw [fired, filterMap_of_history _ history]
  cases event with
  | fired time firing =>
      refine List.pairwise_append.mpr ⟨recorded.inOrder, List.pairwise_singleton _ _, ?_⟩
      intro earlier wasFired last isLast
      have isLater := (wasDue time firing rfl).1
      rw [List.mem_singleton.mp isLast]
      exact Nat.lt_of_le_of_lt (recorded.le_now_of_mem_fired wasFired) isLater
  | replaced time handle alarm? =>
      simp only [Event.fired?, Option.toList_none, List.append_nil]
      exact recorded.inOrder
  | panicked slotName =>
      simp only [Event.fired?, Option.toList_none, List.append_nil]
      exact recorded.inOrder

include alarmAfter

theorem sublist_add
    (handle : Nat) :
    (later.begun handle ++ (later.table.alarm? handle).toList).Sublist
      (later.accepted handle) := by
  have before := recorded.sublist handle
  have begunBefore : (bench.begun handle).Sublist (bench.accepted handle) :=
    (List.sublist_append_left _ _).trans before
  rw [begun, accepted, filterMap_of_history _ history, filterMap_of_history _ history, alarmAfter]
  rw [recorded.alarm?] at before
  cases event with
  | replaced time other alarm? =>
      by_cases same : other = handle
      · -- what was held is dropped, and what is accepted is held
        simp only [Event.map_snd_hold_replaced, Event.begun?, Event.accepted?, if_pos same,
          Option.toList_none, List.append_nil]
        exact begunBefore.append (.refl _)
      · simp only [Event.map_snd_hold_replaced, Event.begun?, Event.accepted?, if_neg same,
          Option.toList_none, List.append_nil]
        exact before
  | fired time firing =>
      by_cases same : firing.handle = handle
      · -- what was held is begun
        obtain ⟨-, -, armed⟩ := wasDue time firing rfl
        rw [same, recorded.alarm?] at armed
        rw [armed] at before
        simp only [Event.map_snd_hold_fired, Event.begun?, Event.accepted?, if_pos same,
          Option.toList_none, List.append_nil]
        exact before
      · simp only [Event.map_snd_hold_fired, Event.begun?, Event.accepted?, if_neg same,
          Option.toList_none, List.append_nil]
        exact before
  | panicked slotName =>
      simp only [Event.begun?, Event.accepted?, Event.hold, Option.toList_none,
        List.append_nil]
      exact before

/-- An event that is added to the record as it happens. -/
theorem add
    (now_le : bench.now ≤ later.now)
    (onTime : ∀ time, event.time? = some time → time = later.now) :
    Recorded later := by
  refine
    ⟨?_, ?_, wasHeld_add recorded history wasDue, inOrder_add recorded history wasDue,
      sublist_add recorded history alarmAfter wasDue⟩
  · intro other member time isTime
    rw [history] at member
    rcases List.mem_append.mp member with isOld | isNew
    · exact Nat.le_trans (recorded.inPast other isOld time isTime) now_le
    · rw [List.mem_singleton.mp isNew] at isTime
      exact Nat.le_of_eq (onTime time isTime)
  · intro handle
    rw [history, held_concat]
    exact alarmAfter handle

end Adding

/-- Every change is recorded. -/
theorem change
    (recorded : Recorded bench)
    (changed : Change bench later) :
    Recorded later := by
  cases changed with
  | created name =>
      exact recorded.of_same rfl (bench.table.alarm?_create name) (Nat.le_refl _)
  | replaced handle alarm? known =>
      refine recorded.add rfl ?_ ?_ (Nat.le_refl _) ?_
      · intro other
        rw [Event.map_snd_hold_replaced, ← recorded.alarm?]
        exact Table.alarm?_replace_of_lt known other alarm?
      · intro time firing isFired
        cases isFired
      · intro time isTime
        cases isTime
        rfl
  | idled running nothingDue =>
      exact recorded.of_same rfl (fun _ => rfl) (Nat.le_succ _)
  | fired firing rest running taken =>
      obtain ⟨armed, due, rfl⟩ := Table.takeDue?_eq_some taken
      have known := Table.lt_size_of_alarm?_eq_some armed
      refine recorded.add rfl ?_ ?_ (Nat.le_succ _) ?_
      · intro other
        rw [Event.map_snd_hold_fired, ← recorded.alarm?]
        exact Table.alarm?_replace_of_lt known other none
      · intro time other isFired
        cases isFired
        exact ⟨Nat.lt_succ_self _, due, armed⟩
      · intro time isTime
        cases isTime
        rfl
  | panicked slotName =>
      refine recorded.add rfl recorded.alarm? ?_ (Nat.le_refl _) ?_
      · intro time firing isFired
        cases isFired
      · intro time isTime
        cases isTime
  | stopped =>
      exact recorded.of_same rfl (fun _ => rfl) (Nat.le_refl _)
  | waited milliseconds stopped =>
      exact recorded.of_same rfl (fun _ => rfl) (Nat.le_add_right _ _)

end Recorded

/-- Everything that happens on a bench is recorded. -/
theorem recorded_of_reaches
    (reaches : Reaches {} bench) :
    Recorded bench := by
  induction reaches with
  | refl =>
      exact .new
  | tail _ changed inductionHypothesis =>
      exact inductionHypothesis.change changed

end Bench

end RefreshRate.Timer
