import RefreshRate.Proofs.Timer.Panic
import RefreshRate.Proofs.Timer.Record
import RefreshRate.Proofs.Timer.RegisterBench

namespace RefreshRate.Timer

/-!
# Nothing is lost, nothing is done twice

A work that a slot accepts is begun once, at its deadline or later, or it is dropped
because something else was put into its slot before; otherwise it is still there.  A
panic costs a work nothing but its own remaining actions, and after the stop no work
is begun any more.
-/

/-- What a slot holds was set after the last event that concerns the slot. -/
theorem HoldsSince.mem_of_concerns
    {earlier later : List Event}
    {event : Event}
    {handle time : Nat}
    {alarm : Alarm Work}
    (holds : HoldsSince (earlier ++ event :: later) handle time alarm)
    (concerned : event.concerns handle = true)
    (notSet : event ≠ .replaced time handle (some alarm)) :
    .replaced time handle (some alarm) ∈ later := by
  obtain ⟨before, after, split, quiet⟩ := holds
  rcases List.append_eq_append_iff.mp split with ⟨between, rfl, isTail⟩ | ⟨between, rfl, isTail⟩
  · cases between with
    | nil =>
        exact absurd (List.cons.inj isTail).1 notSet
    | cons head between =>
        rw [(List.cons.inj isTail).2]
        exact List.mem_append_right _ List.mem_cons_self
  · cases between with
    | nil =>
        exact absurd (List.cons.inj isTail).1.symm notSet
    | cons head between =>
        have inAfter : event ∈ after := by
          rw [(List.cons.inj isTail).2]
          exact List.mem_append_right _ List.mem_cons_self
        cases concerned.symm.trans (quiet event inAfter)

namespace Bench

variable {bench later : Bench}

/-- What has become of the works that the slots of a bench have accepted. -/
structure Accounted (bench : Bench) : Prop where
  /-- The bench is also reached where deadlines and works are kept apart. -/
  exists_registered :
    ∃ registered, RegisterBench.Reaches {} registered ∧ registered.bench = bench
  /-- There each slot has a deadline if and only if it has a work. -/
  deadline_iff_work :
    ∀ registered,
      RegisterBench.Reaches {} registered →
        registered.bench = bench →
          (∀ entry ∈ registered.register.entries,
              entry.deadline?.isSome = entry.work?.isSome) ∧
            (∀ handle, registered.register.isArmed handle = bench.table.isArmed handle) ∧
              ∀ now, registered.register.nextWakeUp? now = bench.table.nextWakeUp? now
  /-- A slot is armed with what it has accepted and what was neither begun nor replaced. -/
  armed_iff :
    ∀ handle alarm,
      bench.table.alarm? handle = some alarm ↔
        ∃ set, HoldsSince bench.history handle set alarm
  /-- No work is begun more often than it was accepted, what is armed included. -/
  begunOnce :
    ∀ handle,
      (bench.begun handle ++ (bench.table.alarm? handle).toList).Sublist
        (bench.accepted handle)
  /-- A work that is begun was set before, is due, and nothing came in between. -/
  wasHeld :
    ∀ before time firing,
      before ++ [.fired time firing] <+: bench.history →
        ∃ set,
          HoldsSince before firing.handle set firing.alarm ∧
            set < time ∧ firing.alarm.deadline ≤ (time : Int)
  inOrder : bench.fired.Pairwise fun earlier later => earlier.1 < later.1

theorem accounted_of_reaches
    (reached : Reaches {} bench) :
    Accounted bench := by
  have recorded := recorded_of_reaches reached
  refine
    ⟨reaches_iff_exists_registered.mp reached, ?_, ?_, recorded.sublist, ?_, recorded.inOrder⟩
  · rintro registered registeredReached rfl
    have paired := RegisterBench.isPaired_of_reaches registeredReached
    exact ⟨paired, paired.isArmed_eq, paired.nextWakeUp?_eq⟩
  · intro handle alarm
    simp only [recorded.alarm?, Option.map_eq_some_iff, ← held_eq_some_iff]
    constructor
    · rintro ⟨⟨set, other⟩, holds, rfl⟩
      exact ⟨set, holds⟩
    · rintro ⟨set, holds⟩
      exact ⟨(set, alarm), holds, rfl⟩
  · intro before time firing isBefore
    obtain ⟨set, holds, rest⟩ := recorded.wasHeld before time firing isBefore
    exact ⟨set, held_eq_some_iff.mp holds, rest⟩

theorem Change.fired_eq
    (change : Change bench later)
    (stopped : bench.isStopped = true) :
    later.fired = bench.fired ∧ later.isStopped = true := by
  cases change with
  | created name =>
      exact ⟨rfl, stopped⟩
  | replaced handle alarm? known =>
      refine ⟨?_, stopped⟩
      rw [Bench.fired, filterMap_of_history _ rfl]
      exact List.append_nil _
  | idled running nothingDue =>
      cases running.symm.trans stopped
  | fired firing rest running taken =>
      cases running.symm.trans stopped
  | panicked slotName =>
      refine ⟨?_, stopped⟩
      rw [Bench.fired, filterMap_of_history _ rfl]
      exact List.append_nil _
  | stopped =>
      exact ⟨rfl, rfl⟩
  | waited milliseconds _ =>
      exact ⟨rfl, stopped⟩

/-- After the stop no work is begun. -/
theorem Reaches.fired_eq
    (reaches : Reaches bench later)
    (stopped : bench.isStopped = true) :
    later.fired = bench.fired ∧ later.isStopped = true := by
  induction reaches with
  | refl =>
      exact ⟨rfl, stopped⟩
  | tail _ change inductionHypothesis =>
      obtain ⟨same, stillStopped⟩ := inductionHypothesis
      obtain ⟨sameNext, stoppedNext⟩ := change.fired_eq stillStopped
      exact ⟨sameNext.trans same, stoppedNext⟩

/-- A work arms its own slot again and panics before it clears the other one. -/
def panicMidway : List Operation :=
  [.perform (.create "first"),
    .perform (.create "second"),
    .perform (.set 0 (-5) "panics" [.schedule 0 2 "again" [], .panic "midway", .clear 1]),
    .perform (.schedule 1 1 "waits" []),
    .advance 3,
    .perform (.trySet 0 9 "late" []),
    .stop,
    .advance 20]

end Bench

end RefreshRate.Timer
