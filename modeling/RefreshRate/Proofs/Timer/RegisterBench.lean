import RefreshRate.Proofs.Timer.Register

namespace RefreshRate.Timer

/-!
# A bench with a register

A bench may have a register in place of its table.  It changes in the same few ways, and
each of its changes is one of a bench with a table: the one refines the other, and in every
state that is reached deadlines and works go together.
-/

/-- A register of scripted works, its clock, and the record of what has happened. -/
structure RegisterBench where
  now : Nat := 0
  isStopped : Bool := false
  register : Register Work := {}
  history : List Event := []

namespace RegisterBench

variable {registered later : RegisterBench}

/-- The bench with the table that the register is. -/
def bench (registered : RegisterBench) : Bench where
  now := registered.now
  isStopped := registered.isStopped
  table := registered.register.table
  history := registered.history

/-- A single change of a bench with a register. -/
inductive Change (registered : RegisterBench) : RegisterBench → Prop where
  | created
      (name : String) :
      Change registered { registered with register := (registered.register.create name).2 }
  | set
      {handle : Nat}
      {work? : Option Work}
      {deadline : Int}
      {register : Register Work}
      (isSet : registered.register.set handle work? deadline = .ok register) :
      Change registered
        { registered with
          register
          history :=
            registered.history ++
              [.replaced registered.now handle (work?.map (Alarm.mk deadline))] }
  /-- A millisecond passes in which no work is begun. -/
  | idled
      {register : Register Work}
      (running : registered.isStopped = false)
      (nothing : registered.register.fireOne (registered.now + 1) = (none, register)) :
      Change registered { registered with now := registered.now + 1, register }
  /-- A millisecond passes in which a work is begun; its actions are changes of their own. -/
  | fired
      {firing : Firing Work}
      {register : Register Work}
      (running : registered.isStopped = false)
      (taken : registered.register.fireOne (registered.now + 1) = (some firing, register)) :
      Change registered
        { registered with
          now := registered.now + 1
          register
          history := registered.history ++ [.fired (registered.now + 1) firing] }
  | panicked
      (slotName : String) :
      Change registered
        { registered with history := registered.history ++ [.panicked slotName] }
  | stopped :
      Change registered { registered with isStopped := true }
  /-- Time passes after the stop. -/
  | waited
      (milliseconds : Nat)
      (stopped : registered.isStopped = true) :
      Change registered { registered with now := registered.now + milliseconds }

/-- Some changes lead from one bench with a register to another one. -/
def Reaches (registered later : RegisterBench) : Prop :=
  Relation.ReflTransGen Change registered later

/-- No change takes a deadline and its work apart. -/
theorem Change.isPaired
    (change : Change registered later)
    (paired : registered.register.IsPaired) :
    later.register.IsPaired := by
  cases change with
  | created name =>
      exact paired.create name
  | set isSet =>
      exact paired.set isSet
  | idled running nothing =>
      rcases paired.fireOne_cases (registered.now + 1) with
        ⟨-, unchanged⟩ | ⟨firing, rest, taken, -, -⟩
      · cases nothing.symm.trans unchanged
        exact paired
      · cases nothing.symm.trans taken
  | fired running taken =>
      rcases paired.fireOne_cases (registered.now + 1) with
        ⟨-, unchanged⟩ | ⟨firing, rest, isTaken, isPaired, -⟩
      · cases taken.symm.trans unchanged
      · cases taken.symm.trans isTaken
        exact isPaired
  | panicked slotName =>
      exact paired
  | stopped =>
      exact paired
  | waited milliseconds stopped =>
      exact paired

/-- In every state that is reached each entry has a deadline if and only if it has a work. -/
theorem isPaired_of_reaches
    (reached : Reaches {} registered) :
    registered.register.IsPaired := by
  induction reached with
  | refl =>
      exact Register.isPaired_new
  | tail _ change inductionHypothesis =>
      exact change.isPaired inductionHypothesis

/-- Each change is one of a bench with a table. -/
theorem Change.bench
    (change : Change registered later)
    (paired : registered.register.IsPaired) :
    Bench.Change registered.bench later.bench := by
  cases change with
  | created name =>
      simp only [RegisterBench.bench, Register.table_create]
      exact .created name
  | set isSet =>
      obtain ⟨known, isReplaced⟩ := Register.table_of_set_eq_ok isSet
      rw [← Register.size_table] at known
      simp only [RegisterBench.bench, isReplaced]
      exact .replaced _ _ known
  | idled running nothing =>
      rcases paired.fireOne_cases (registered.now + 1) with
        ⟨nothingDue, unchanged⟩ | ⟨firing, rest, taken, -, -⟩
      · cases nothing.symm.trans unchanged
        exact .idled running nothingDue
      · cases nothing.symm.trans taken
  | fired running taken =>
      rcases paired.fireOne_cases (registered.now + 1) with
        ⟨-, unchanged⟩ | ⟨firing, rest, isTaken, -, isDue⟩
      · cases taken.symm.trans unchanged
      · cases taken.symm.trans isTaken
        exact .fired _ _ running isDue
  | panicked slotName =>
      exact .panicked slotName
  | stopped =>
      exact .stopped
  | waited milliseconds stopped =>
      exact .waited milliseconds stopped

end RegisterBench

namespace Bench

variable {bench later : Bench}

/-- Each change of a bench with a table is one of a bench with a register. -/
theorem Change.exists_registered
    (change : Change bench later)
    {registered : RegisterBench}
    (paired : registered.register.IsPaired)
    (same : registered.bench = bench) :
    ∃ next, RegisterBench.Change registered next ∧ next.bench = later := by
  subst same
  cases change with
  | created name =>
      refine ⟨_, .created name, ?_⟩
      simp only [RegisterBench.bench, Register.table_create]
  | replaced handle alarm? known =>
      have isKnown : handle < registered.register.size := by
        rwa [← Register.size_table]
      have asAlarm :
          (alarm?.map Alarm.work).map (Alarm.mk ((alarm?.map Alarm.deadline).getD 0)) = alarm? := by
        cases alarm? with
        | none =>
            rfl
        | some alarm =>
            rfl
      have isSet :
          registered.register.set handle (alarm?.map Alarm.work)
              ((alarm?.map Alarm.deadline).getD 0) =
            .ok _ :=
        if_pos isKnown
      obtain ⟨-, isReplaced⟩ := Register.table_of_set_eq_ok isSet
      refine ⟨_, .set isSet, ?_⟩
      simp only [RegisterBench.bench, isReplaced, asAlarm]
      rfl
  | idled running nothingDue =>
      have nothing := paired.fireOne_of_takeDue?_eq_none nothingDue
      exact ⟨_, .idled running nothing, rfl⟩
  | fired firing rest running taken =>
      obtain ⟨register, fired, -, rfl⟩ := paired.fireOne_of_takeDue?_eq_some taken
      exact ⟨_, .fired running fired, rfl⟩
  | panicked slotName =>
      exact ⟨_, .panicked slotName, rfl⟩
  | stopped =>
      exact ⟨_, .stopped, rfl⟩
  | waited milliseconds stopped =>
      exact ⟨_, .waited milliseconds stopped, rfl⟩

/-- A bench with a table reaches what one with a register reaches. -/
theorem reaches_iff_exists_registered :
    Reaches {} bench ↔
      ∃ registered, RegisterBench.Reaches {} registered ∧ registered.bench = bench := by
  constructor
  · intro reached
    induction reached with
    | refl =>
        exact ⟨{}, .refl, rfl⟩
    | tail _ change inductionHypothesis =>
        obtain ⟨registered, reachedSoFar, same⟩ := inductionHypothesis
        have paired := RegisterBench.isPaired_of_reaches reachedSoFar
        obtain ⟨next, nextChange, sameNext⟩ := change.exists_registered paired same
        exact ⟨next, reachedSoFar.tail nextChange, sameNext⟩
  · rintro ⟨registered, reached, rfl⟩
    induction reached with
    | refl =>
        exact .refl
    | tail reachedSoFar change inductionHypothesis =>
        have paired := RegisterBench.isPaired_of_reaches reachedSoFar
        exact inductionHypothesis.tail (change.bench paired)

end Bench

end RefreshRate.Timer
