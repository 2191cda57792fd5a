import RefreshRate.Proofs.Timer.Operation

namespace RefreshRate.Timer

/-!
# A host that sleeps misses nothing

A watched host is looked at in every single millisecond, and each time the alarm that is
due and comes first, if there is one, is done.  A host that sleeps from one wake-up to the
next does the same works at the same times and comes to the same end, whatever its works
do.  It wakes up only to do a work, so it sleeps through the given time in at most as many
steps as there are milliseconds.
-/

namespace Table

variable
  {Work : Type}
  {table rest : Table Work}
  {now : Nat}
  {firing other : Firing Work}

/-- Every deadline is still to come. -/
def NothingDue
    (table : Table Work)
    (now : Nat) :
    Prop :=
  ∀ handle alarm,
    table.alarm? handle = some alarm →
      (now : Int) < alarm.deadline

/-- Of the alarms that are due this one comes first, by deadline and then by handle. -/
structure IsLeastDue
    (table : Table Work)
    (now : Nat)
    (firing : Firing Work) :
    Prop where
  inSlot : table.slots[firing.handle]? = some ⟨firing.slotName, some firing.alarm⟩
  due : firing.alarm.deadline ≤ (now : Int)
  least :
    ∀ handle alarm,
      table.alarm? handle = some alarm →
        alarm.deadline ≤ (now : Int) →
          firing.Precedes handle alarm

theorem IsLeastDue.alarm?
    (isLeastDue : table.IsLeastDue now firing) :
    table.alarm? firing.handle = some firing.alarm := by
  simp only [Table.alarm?, isLeastDue.inSlot, Option.bind_some]

theorem IsLeastDue.unique
    (isLeastDue : table.IsLeastDue now firing)
    (otherLeastDue : table.IsLeastDue now other) :
    firing = other := by
  have precedes := isLeastDue.least _ _ otherLeastDue.alarm? otherLeastDue.due
  have preceded := otherLeastDue.least _ _ isLeastDue.alarm? isLeastDue.due
  simp only [Firing.Precedes] at precedes preceded
  have sameHandle : firing.handle = other.handle := by
    omega
  have sameSlot := otherLeastDue.inSlot
  rw [← sameHandle, isLeastDue.inSlot] at sameSlot
  rcases firing with ⟨handle, slotName, alarm⟩
  rcases other with ⟨otherHandle, otherName, otherAlarm⟩
  cases sameSlot
  cases sameHandle
  rfl

theorem isLeastDue_of_takeDue?_eq_some
    (taken : table.takeDue? now = some (firing, rest)) :
    table.IsLeastDue now firing := by
  have found : table.earliest? = some firing := by
    unfold takeDue? at taken
    split at taken
    · cases taken
    · rename_i earliest found
      split at taken
      · cases taken
        exact found
      · cases taken
  exact
    { inSlot := getElem?_of_earliestSlot?_eq_some found
      due := (takeDue?_eq_some taken).2.1
      least := fun _ _ armed _ => precedes_of_takeDue?_eq_some armed taken }

/-- What is taken from a table is the alarm that is due and comes first. -/
theorem takeDue?_of_isLeastDue
    (isLeastDue : table.IsLeastDue now firing) :
    table.takeDue? now = some (firing, table.replace firing.handle none) := by
  cases taken : table.takeDue? now with
  | none =>
      have notDue := lt_deadline_of_takeDue?_eq_none isLeastDue.alarm? taken
      exact absurd isLeastDue.due (Int.not_le.mpr notDue)
  | some both =>
      obtain ⟨other, rest⟩ := both
      obtain ⟨-, -, rfl⟩ := takeDue?_eq_some taken
      cases isLeastDue.unique (isLeastDue_of_takeDue?_eq_some taken)
      rfl

theorem takeDue?_of_nothingDue
    (nothingDue : table.NothingDue now) :
    table.takeDue? now = none := by
  cases taken : table.takeDue? now with
  | none =>
      rfl
  | some both =>
      obtain ⟨firing, rest⟩ := both
      obtain ⟨armed, due, -⟩ := takeDue?_eq_some taken
      exact absurd due (Int.not_le.mpr (nothingDue _ _ armed))

/-- Whenever it is time to wake up, some alarm is due. -/
theorem exists_takeDue?_of_nextWakeUp?
    {next : Nat}
    (wakesUp : table.nextWakeUp? now = some next) :
    ∃ firing rest, table.takeDue? next = some (firing, rest) := by
  obtain ⟨firing, found, isNext⟩ := Option.map_eq_some_iff.mp wakesUp
  have due : firing.alarm.deadline ≤ (next : Int) := by
    omega
  exact ⟨firing, table.replace firing.handle none, by simp only [takeDue?, found, if_pos due]⟩

end Table

namespace Host

variable
  {World Work : Type}
  {host : Host World Work}
  {remaining target now : Nat}
  {world final : World}
  {fires earlier : List (Nat × Firing Work)}

/-- The host that also keeps a list of what has fired, and when. -/
def recording
    (host : Host World Work) :
    Host (World × List (Nat × Firing Work)) Work where
  table recorded := host.table recorded.1
  withTable recorded table := (host.withTable recorded.1 table, recorded.2)
  run now firing recorded := (host.run now firing recorded.1, recorded.2 ++ [(now, firing)])

/-- A host is watched for some milliseconds, and some alarms fire. -/
inductive Watched
    (host : Host World Work) :
    Nat → Nat → World → List (Nat × Firing Work) → World → Prop where
  | ended
      (now : Nat)
      (world : World) :
      Watched host 0 now world [] world
  /-- A millisecond in which nothing is due. -/
  | idled
      {remaining now : Nat}
      {world final : World}
      {fires : List (Nat × Firing Work)}
      (nothingDue : (host.table world).NothingDue (now + 1))
      (onwards : Watched host remaining (now + 1) world fires final) :
      Watched host (remaining + 1) now world fires final
  /-- A millisecond in which the alarm that comes first leaves its slot, and its work is done. -/
  | fired
      {remaining now : Nat}
      {world final : World}
      {firing : Firing Work}
      {fires : List (Nat × Firing Work)}
      (isLeastDue : (host.table world).IsLeastDue (now + 1) firing)
      (onwards :
        Watched host remaining (now + 1)
          (host.run (now + 1) firing
            (host.withTable world ((host.table world).replace firing.handle none)))
          fires final) :
      Watched host (remaining + 1) now world ((now + 1, firing) :: fires) final

/-- A host sleeps until a target time, and wakes up at some times. -/
inductive Slept
    (host : Host World Work)
    (target : Nat) :
    Nat → World → List Nat → World → Prop where
  | sleptOn
      {now : Nat}
      {world : World}
      (tooLate : ∀ next, (host.table world).nextWakeUp? now = some next → target < next) :
      Slept host target now world [] world
  | wokeUp
      {now next : Nat}
      {world final : World}
      {times : List Nat}
      (wakesUp : (host.table world).nextWakeUp? now = some next)
      (inTime : next ≤ target)
      (onwards : Slept host target next (host.wakeUp next world) times final) :
      Slept host target now world (next :: times) final

theorem Watched.length_le
    (watched : Watched host remaining now world fires final) :
    fires.length ≤ remaining := by
  induction watched with
  | ended =>
      exact Nat.le_refl 0
  | idled nothingDue onwards inductionHypothesis =>
      exact Nat.le_succ_of_le inductionHypothesis
  | fired isLeastDue onwards inductionHypothesis =>
      exact Nat.succ_le_succ inductionHypothesis

theorem wakeUp_recording
    {now : Nat}
    {firing : Firing Work}
    {rest : Table Work}
    (taken : (host.table world).takeDue? now = some (firing, rest)) :
    host.recording.wakeUp now (world, earlier) =
      (host.wakeUp now world, earlier ++ [(now, firing)]) := by
  have takenWhileRecording :
      (host.recording.table (world, earlier)).takeDue? now = some (firing, rest) :=
    taken
  simp only [wakeUp, taken, takenWhileRecording]
  rfl

/-- Whatever comes of watching is what comes of waking up in every millisecond. -/
theorem Watched.tick_recording
    (watched : Watched host remaining now world fires final)
    (earlier : List (Nat × Firing Work)) :
    host.recording.tick remaining now (world, earlier) = (final, earlier ++ fires) := by
  induction watched generalizing earlier with
  | ended now world =>
      rw [List.append_nil]
      rfl
  | @idled remaining now world final fires nothingDue onwards inductionHypothesis =>
      have nothingTaken :
          (host.recording.table (world, earlier)).takeDue? (now + 1) = none :=
        Table.takeDue?_of_nothingDue nothingDue
      rw [tick, wakeUp_of_takeDue?_eq_none _ nothingTaken]
      exact inductionHypothesis earlier
  | fired isLeastDue onwards inductionHypothesis =>
      have taken := Table.takeDue?_of_isLeastDue isLeastDue
      rw [tick, wakeUp_recording taken]
      simp only [wakeUp, taken]
      rw [inductionHypothesis, List.append_assoc]
      rfl

/-- A host can be watched for as long as one likes. -/
theorem exists_watched
    (host : Host World Work)
    (remaining now : Nat)
    (world : World) :
    ∃ fires final, Watched host remaining now world fires final := by
  induction remaining generalizing now world with
  | zero =>
      exact ⟨[], world, .ended now world⟩
  | succ remaining inductionHypothesis =>
      cases taken : (host.table world).takeDue? (now + 1) with
      | none =>
          obtain ⟨fires, final, onwards⟩ := inductionHypothesis (now + 1) world
          have nothingDue : (host.table world).NothingDue (now + 1) :=
            fun _ _ armed => Table.lt_deadline_of_takeDue?_eq_none armed taken
          exact ⟨fires, final, .idled nothingDue onwards⟩
      | some both =>
          have isLeastDue : (host.table world).IsLeastDue (now + 1) both.1 :=
            Table.isLeastDue_of_takeDue?_eq_some taken
          obtain ⟨fires, final, onwards⟩ := inductionHypothesis (now + 1) _
          exact ⟨_, final, .fired isLeastDue onwards⟩

/-- To sleep and to keep watch is the same. -/
theorem watched_iff_advance_recording
    (milliseconds now : Nat)
    (world : World) :
    Watched host milliseconds now world fires final ↔
      host.recording.advance (now + milliseconds) now (world, []) = (final, fires) := by
  rw [advance_eq_tick, Nat.add_sub_cancel_left]
  constructor
  · intro watched
    exact watched.tick_recording []
  · intro ended
    obtain ⟨watchedFires, watchedFinal, watched⟩ := exists_watched host milliseconds now world
    have same := watched.tick_recording []
    rw [ended] at same
    cases same
    exact watched

/-- A host that sleeps wakes up exactly when something fires. -/
theorem exists_slept
    (host : Host World Work)
    (target now : Nat)
    (world : World)
    (earlier : List (Nat × Firing Work)) :
    ∃ fires,
      host.recording.advance target now (world, earlier) =
          (host.advance target now world, earlier ++ fires) ∧
        Slept host target now world (fires.map Prod.fst) (host.advance target now world) := by
  fun_induction host.advance target now world generalizing earlier with
  | case1 now world asleep =>
      refine ⟨[], ?_, .sleptOn fun next wakesUp => ?_⟩
      · rw [List.append_nil]
        exact advance_of_asleep host.recording asleep
      · cases asleep.symm.trans wakesUp
  | case2 now world next wakesUp inTime inductionHypothesis =>
      obtain ⟨firing, rest, taken⟩ := Table.exists_takeDue?_of_nextWakeUp? wakesUp
      obtain ⟨fires, recorded, slept⟩ := inductionHypothesis (earlier ++ [(next, firing)])
      refine ⟨(next, firing) :: fires, ?_, .wokeUp wakesUp inTime slept⟩
      rw [advance]
      split
      · rename_i asleep
        cases asleep.symm.trans wakesUp
      · rename_i other wakesUpToo
        cases wakesUp.symm.trans wakesUpToo
        rw [if_pos inTime, wakeUp_recording taken, recorded, List.append_assoc]
        rfl
  | case3 now world next wakesUp tooLate =>
      refine ⟨[], ?_, .sleptOn fun other wakesUpToo => ?_⟩
      · rw [List.append_nil, advance]
        split
        · rfl
        · rename_i other wakesUpToo
          cases wakesUp.symm.trans wakesUpToo
          rw [if_neg tooLate]
      · cases wakesUp.symm.trans wakesUpToo
        exact Nat.not_le.mp tooLate

/-- It does not matter where a time of sleep is cut in two. -/
theorem advance_add
    (host : Host World Work)
    (first second now : Nat)
    (world : World) :
    host.advance (now + first + second) (now + first) (host.advance (now + first) now world) =
      host.advance (now + first + second) now world := by
  have wholeTime : now + first + second - now = first + second := by
    omega
  simp only [advance_eq_tick, Nat.add_sub_cancel_left, wholeTime, tick_add]

end Host

namespace Bench

/-- Let time pass, looking at the table in every millisecond. -/
def watch
    (bench : Bench)
    (milliseconds : Nat) :
    Bench :=
  let target := bench.now + milliseconds
  if bench.isStopped then
    { bench with now := target }
  else
    { host.tick milliseconds bench.now bench with now := target }

def operateWatched (bench : Bench) : Operation → Bench
  | .perform action =>
      (bench.perform action).2
  | .advance milliseconds =>
      bench.watch milliseconds
  | .stop =>
      bench.stop

theorem operate_eq_operateWatched : operate = operateWatched := by
  funext bench operation
  cases operation with
  | perform action =>
      rfl
  | advance milliseconds =>
      simp only [operate, operateWatched, advance, watch, Host.advance_eq_tick,
        Nat.add_sub_cancel_left]
  | stop =>
      rfl

theorem isStopped_tick
    (remaining now : Nat)
    (bench : Bench) :
    (host.tick remaining now bench).isStopped = bench.isStopped := by
  induction remaining generalizing now bench with
  | zero =>
      rfl
  | succ remaining inductionHypothesis =>
      exact (inductionHypothesis (now + 1) _).trans (isStopped_wakeUp (now + 1) bench)

/-- The clock that a bench shows has no influence on what its timers do. -/
theorem tick_withNow
    (remaining now shown target : Nat)
    (bench : Bench) :
    { host.tick remaining now { bench with now := shown } with now := target } =
      { host.tick remaining now bench with now := target } := by
  induction remaining generalizing now bench with
  | zero =>
      rfl
  | succ remaining inductionHypothesis =>
      simp only [Host.tick]
      cases taken : bench.table.takeDue? (now + 1) with
      | none =>
          have staysAsShown :
              host.wakeUp (now + 1) { bench with now := shown } = { bench with now := shown } :=
            Host.wakeUp_of_takeDue?_eq_none host taken
          rw [Host.wakeUp_of_takeDue?_eq_none host taken, staysAsShown]
          exact inductionHypothesis (now + 1) bench
      | some both =>
          have sameTable : host.table { bench with now := shown } = bench.table := rfl
          have sameWork :
              host.wakeUp (now + 1) { bench with now := shown } = host.wakeUp (now + 1) bench := by
            simp only [Host.wakeUp, sameTable, taken]
            simp only [host, taken]
            rfl
          rw [sameWork]

/-- It does not matter where a time is cut in two. -/
theorem advance_advance
    (bench : Bench)
    (first second : Nat) :
    (bench.advance first).advance second = bench.advance (first + second) := by
  by_cases stopped : bench.isStopped = true
  · simp only [advance, if_pos stopped, Nat.add_assoc]
  · have firstStopped : ¬(host.tick first bench.now bench).isStopped = true := by
      rw [isStopped_tick]
      exact stopped
    have onwards :=
      tick_withNow second (bench.now + first) (bench.now + first) (bench.now + first + second)
        (host.tick first bench.now bench)
    simp only [advance, if_neg stopped, if_neg firstStopped, Host.advance_eq_tick,
      Nat.add_sub_cancel_left, Host.tick_add]
    rw [← Nat.add_assoc]
    exact onwards

/--
Whatever the works of a host do, sleeping until some time later has the outcome of a watch
that is kept in every millisecond: the same alarms fire at the same times, and the world is
the same.  The host wakes up exactly when something fires, so its sleep is over after at
most as many steps as there are milliseconds, and it can be cut in two anywhere.  So it is
on a bench, whatever is done to it meanwhile.
-/
theorem sleeping_agrees_with_watching
    {World Work : Type}
    (host : Host World Work)
    (milliseconds now : Nat)
    (world : World) :
    (∀ fires final,
        Host.Watched host milliseconds now world fires final ↔
          host.recording.advance (now + milliseconds) now (world, []) = (final, fires)) ∧
      (∃ fires,
        host.recording.advance (now + milliseconds) now (world, []) =
            (host.advance (now + milliseconds) now world, fires) ∧
          Host.Slept host (now + milliseconds) now world (fires.map Prod.fst)
              (host.advance (now + milliseconds) now world) ∧
            fires.length ≤ milliseconds) ∧
        (∀ first second,
          host.advance (now + first + second) (now + first)
              (host.advance (now + first) now world) =
            host.advance (now + first + second) now world) ∧
          ∀ (bench : Bench) (operations : List Operation) (first second : Nat),
            bench.operateAll operations = operations.foldl operateWatched bench ∧
              (bench.advance first).advance second = bench.advance (first + second) := by
  refine ⟨?_, ?_, ?_, ?_⟩
  · intro fires final
    exact Host.watched_iff_advance_recording milliseconds now world
  · obtain ⟨fires, recorded, slept⟩ :=
      Host.exists_slept host (now + milliseconds) now world []
    have watched := (Host.watched_iff_advance_recording milliseconds now world).mpr recorded
    exact ⟨fires, recorded, slept, watched.length_le⟩
  · intro first second
    exact Host.advance_add host first second now world
  · intro bench operations first second
    refine ⟨?_, advance_advance bench first second⟩
    rw [operateAll, operate_eq_operateWatched]

end Bench

end RefreshRate.Timer
