import RefreshRate.Proofs.Timer.Lateness
import RefreshRate.Proofs.Timer.LoopBench

namespace RefreshRate.Timer

/-!
# Works that wait for their turn

One work fires in each millisecond, and it may arm slots again that go before all
others.  But what is armed now is not late yet, so it is never counted among the works
that are late by some milliseconds.  These become fewer with each millisecond in which the
loop is not passed over.  If it comes first in all of them, then of `n` slots at most
`n - k` are late by `k` milliseconds or more, and none by `n`.  But a caller who gets ahead of
the loop in every millisecond keeps a work waiting without end.
-/

namespace Table

variable
  {Work : Type}
  {table rest : Table Work}
  {handle now behind : Nat}
  {alarm : Alarm Work}
  {limit : Int}

/-- Whether a slot is armed with a deadline up to a limit. -/
def isDueBy
    (table : Table Work)
    (limit : Int)
    (handle : Nat) :
    Bool :=
  (table.alarm? handle).any fun alarm => decide (alarm.deadline ≤ limit)

/-- The number of slots that are armed with a deadline up to a limit. -/
def dueBy
    (table : Table Work)
    (limit : Int) :
    Nat :=
  (List.range table.size).countP (table.isDueBy limit)

/-- The later the works are, the fewer of them there are, after some milliseconds of delay. -/
def KeepsUp
    (table : Table Work)
    (behind now : Nat) :
    Prop :=
  ∀ lateness : Nat, table.dueBy ((now : Int) - lateness) ≤ table.size + behind - lateness

theorem isDueBy_eq_true_iff :
    table.isDueBy limit handle = true ↔
      ∃ alarm, table.alarm? handle = some alarm ∧ alarm.deadline ≤ limit := by
  simp [isDueBy, Option.any_eq_true]

theorem dueBy_le_size
    (table : Table Work)
    (limit : Int) :
    table.dueBy limit ≤ table.size := by
  have bound :=
    List.countP_le_length (p := table.isDueBy limit) (l := List.range table.size)
  rwa [List.length_range] at bound

/-- Where no slot has become due there are no more slots that are due. -/
theorem dueBy_le_of_imp
    {other : Table Work}
    (sameSize : other.size = table.size)
    (implies :
      ∀ handle,
        other.isDueBy limit handle = true →
          table.isDueBy limit handle = true) :
    other.dueBy limit ≤ table.dueBy limit := by
  unfold dueBy
  rw [sameSize]
  exact List.countP_mono_left fun handle _ => implies handle

/-- A slot is among those that are due. -/
theorem dueBy_pos
    (armed : table.alarm? handle = some alarm)
    (due : alarm.deadline ≤ limit) :
    0 < table.dueBy limit :=
  List.countP_pos_iff.mpr
    ⟨handle, List.mem_range.mpr (lt_size_of_alarm?_eq_some armed),
      isDueBy_eq_true_iff.mpr ⟨alarm, armed, due⟩⟩

theorem exists_of_dueBy_pos
    (someDue : 0 < table.dueBy limit) :
    ∃ handle alarm, table.alarm? handle = some alarm ∧ alarm.deadline ≤ limit := by
  obtain ⟨handle, -, isDue⟩ := List.countP_pos_iff.mp someDue
  exact ⟨handle, isDueBy_eq_true_iff.mp isDue⟩

/-- Where nothing can be taken, nothing is due. -/
theorem dueBy_eq_zero_of_takeDue?_eq_none
    (nothingDue : table.takeDue? now = none)
    (limit_le : limit ≤ (now : Int)) :
    table.dueBy limit = 0 := by
  by_contra someDue
  obtain ⟨handle, alarm, armed, due⟩ := exists_of_dueBy_pos (Nat.pos_of_ne_zero someDue)
  have ahead := lt_deadline_of_takeDue?_eq_none armed nothingDue
  omega

/-- Putting a slot to sleep makes no other slot due. -/
theorem isDueBy_replace_none
    {slept : Nat}
    (isDue : (table.replace slept none).isDueBy limit handle = true) :
    table.isDueBy limit handle = true := by
  obtain ⟨alarm, armed, due⟩ := isDueBy_eq_true_iff.mp isDue
  rw [alarm?_replace] at armed
  split at armed
  · cases armed
  · exact isDueBy_eq_true_iff.mpr ⟨alarm, armed, due⟩

/-- What is taken is one of the slots that are due, if there are any. -/
theorem dueBy_lt_of_takeDue?_eq_some
    {firing : Firing Work}
    (taken : table.takeDue? now = some (firing, rest))
    (someDue : 0 < table.dueBy limit) :
    rest.dueBy limit < table.dueBy limit := by
  obtain ⟨handle, alarm, armed, due⟩ := exists_of_dueBy_pos someDue
  have precedes := precedes_of_takeDue?_eq_some armed taken
  obtain ⟨wasArmed, -, rfl⟩ := takeDue?_eq_some taken
  have inTable := lt_size_of_alarm?_eq_some wasArmed
  have wasDue : table.isDueBy limit firing.handle = true := by
    refine isDueBy_eq_true_iff.mpr ⟨firing.alarm, wasArmed, ?_⟩
    simp only [Firing.Precedes] at precedes
    omega
  have notDueNow : (table.replace firing.handle none).isDueBy limit firing.handle = false := by
    simp [isDueBy, alarm?_replace, inTable]
  unfold dueBy
  rw [size_replace]
  exact
    countP_lt_countP_of_imp (fun _ _ => isDueBy_replace_none) (List.mem_range.mpr inTable)
      notDueNow wasDue

namespace KeepsUp

/-- With the number of slots and the delay as lateness: none is that late. -/
theorem lt_deadline_add_size
    (keepsUp : table.KeepsUp behind now)
    (armed : table.alarm? handle = some alarm) :
    (now : Int) < alarm.deadline + table.size + behind := by
  by_contra tooLate
  have someDue : 0 < table.dueBy ((now : Int) - (table.size + behind : Nat)) :=
    dueBy_pos armed (by omega)
  have bound := keepsUp (table.size + behind)
  omega

theorem mono
    (keepsUp : table.KeepsUp behind now) :
    table.KeepsUp (behind + 1) now :=
  fun lateness => Nat.le_trans (keepsUp lateness) (by omega)

theorem create
    (keepsUp : table.KeepsUp behind now)
    (name : String) :
    (table.create name).2.KeepsUp behind now := by
  intro lateness
  have sameDue :
      (table.create name).2.dueBy ((now : Int) - lateness) =
        table.dueBy ((now : Int) - lateness) := by
    have sameTest (limit : Int) : (table.create name).2.isDueBy limit = table.isDueBy limit := by
      funext handle
      rw [isDueBy, alarm?_create, isDueBy]
    have newSleeps (limit : Int) : table.isDueBy limit table.size = false := by
      simp [isDueBy, alarm?, size]
    unfold dueBy
    rw [size_create, sameTest, List.range_succ, List.countP_append, List.countP_singleton,
      newSleeps, if_neg Bool.false_ne_true, Nat.add_zero]
  have bound := keepsUp lateness
  rw [sameDue, size_create]
  omega

theorem replace_none
    (keepsUp : table.KeepsUp behind now)
    (slept : Nat) :
    (table.replace slept none).KeepsUp behind now := by
  intro lateness
  rw [size_replace]
  exact
    Nat.le_trans (dueBy_le_of_imp (size_replace ..) fun _ => isDueBy_replace_none)
      (keepsUp lateness)

/-- What is armed now is not late. -/
theorem replace_some
    {replaced : Nat}
    {fresh : Alarm Work}
    (keepsUp : table.KeepsUp behind now)
    (inTime : (now : Int) ≤ fresh.deadline) :
    (table.replace replaced (some fresh)).KeepsUp behind now := by
  intro lateness
  cases lateness with
  | zero =>
      exact Nat.le_trans (dueBy_le_size _ _) (Nat.le_add_right ..)
  | succ lateness =>
      refine Nat.le_trans (dueBy_le_of_imp (size_replace ..) fun other isDue => ?_) ?_
      · obtain ⟨alarm, armed, due⟩ := isDueBy_eq_true_iff.mp isDue
        rw [alarm?_replace] at armed
        split at armed
        · cases armed
          omega
        · exact isDueBy_eq_true_iff.mpr ⟨alarm, armed, due⟩
      · rw [size_replace]
        exact keepsUp (lateness + 1)

theorem of_nothingDue
    (nothingDue : table.takeDue? now = none) :
    table.KeepsUp behind now := by
  intro lateness
  rw [dueBy_eq_zero_of_takeDue?_eq_none nothingDue (by omega)]
  exact Nat.zero_le _

/-- A millisecond makes all works later. -/
theorem goOn
    (keepsUp : table.KeepsUp behind now) :
    table.KeepsUp (behind + 1) (now + 1) := by
  intro lateness
  cases lateness with
  | zero =>
      exact Nat.le_trans (dueBy_le_size _ _) (Nat.le_add_right ..)
  | succ lateness =>
      have sameLimit :
          ((now + 1 : Nat) : Int) - (lateness + 1 : Nat) = (now : Int) - lateness := by
        omega
      have bound := keepsUp lateness
      rw [sameLimit]
      omega

/-- One of the latest works is done. -/
theorem takeDue?
    {firing : Firing Work}
    (keepsUp : table.KeepsUp (behind + 1) now)
    (taken : table.takeDue? now = some (firing, rest)) :
    rest.KeepsUp behind now := by
  have sameSize : rest.size = table.size := by
    obtain ⟨-, -, rfl⟩ := takeDue?_eq_some taken
    exact size_replace ..
  intro lateness
  rw [sameSize]
  have bound := keepsUp lateness
  by_cases someDue : 0 < table.dueBy ((now : Int) - lateness)
  · have less := dueBy_lt_of_takeDue?_eq_some taken someDue
    omega
  · have fewer : rest.dueBy ((now : Int) - lateness) ≤ table.dueBy ((now : Int) - lateness) := by
      obtain ⟨-, -, rfl⟩ := takeDue?_eq_some taken
      exact dueBy_le_of_imp (size_replace ..) fun _ => isDueBy_replace_none
    omega

end KeepsUp

end Table

namespace Bench

variable {bench later : Bench}

/-- No work was armed with a deadline that had passed. -/
def ArmsInTime (bench : Bench) : Prop :=
  ∀ (time handle : Nat) alarm,
    .replaced time handle (some alarm) ∈ bench.history →
      (time : Int) ≤ alarm.deadline

theorem ArmsInTime.of_reaches
    (armsInTime : ArmsInTime later)
    (reaches : Reaches bench later) :
    ArmsInTime bench :=
  fun time handle alarm member =>
    armsInTime time handle alarm (reaches.history_isPrefix.subset member)

/-- Unless it armed something too late or was stopped, the bench keeps up with its works. -/
def KeepsUp
    (behind : Nat)
    (bench : Bench) :
    Prop :=
  ArmsInTime bench →
    bench.isStopped = false →
      bench.table.KeepsUp behind bench.now

namespace KeepsUp

variable {behind : Nat}

theorem perform
    (keepsUp : KeepsUp behind bench)
    (action : Action) :
    KeepsUp behind (bench.perform action).2 := by
  intro armsInTime running
  have performed := performed_perform bench action
  have before :=
    keepsUp (armsInTime.of_reaches performed.reaches) (performed.clock_eq.2.symm.trans running)
  generalize (bench.perform action).2 = after at armsInTime performed
  cases performed with
  | nothing =>
      exact before
  | created name =>
      exact before.create name
  | replaced handle alarm? known =>
      cases alarm? with
      | none =>
          exact before.replace_none handle
      | some alarm =>
          apply before.replace_some
          exact armsInTime _ handle alarm (List.mem_append_right _ List.mem_cons_self)

/-- What is taken makes up for a millisecond of delay, before its work is done. -/
theorem begin
    {firing : Firing Work}
    {rest : Table Work}
    (keepsUp : KeepsUp (behind + 1) bench)
    (taken : bench.table.takeDue? bench.now = some (firing, rest)) :
    KeepsUp behind ({ bench with table := rest }.record (.fired bench.now firing)) := by
  intro armsInTime running
  refine (keepsUp ?_ running).takeDue? taken
  exact fun time handle alarm member =>
    armsInTime time handle alarm (List.mem_append_left _ member)

theorem performAll
    (keepsUp : KeepsUp behind bench)
    (script : List Action) :
    KeepsUp behind (bench.performAll script).2 :=
  performAll_induction (motive := KeepsUp behind) (fun _ action before => before.perform action)
    keepsUp script

theorem run
    {firing : Firing Work}
    {rest : Table Work}
    (keepsUp : KeepsUp (behind + 1) bench)
    (taken : bench.table.takeDue? bench.now = some (firing, rest)) :
    KeepsUp behind (({ bench with table := rest } : Bench).run bench.now firing) := by
  have done := (keepsUp.begin taken).performAll firing.alarm.work.script
  simp only [Bench.run]
  split
  · intro armsInTime running
    refine done ?_ running
    exact armsInTime.of_reaches (.of_change (.panicked _))
  · exact done

end KeepsUp

/-- Whoever comes first, a bench keeps up with its works but for the delay. -/
theorem kept_keepsUp : LoopHost.KeptWithDelay loopHost KeepsUp where
  mono keepsUp armsInTime running :=
    (keepsUp armsInTime running).mono
  call each keepsUp := by
    cases each with
    | perform action =>
        exact keepsUp.perform action
    | stop =>
        intro _ running
        cases running
  idles notDue _ _ running :=
    .of_nothingDue (LoopHost.takeDue?_eq_none_of_isDue_eq_false running notDue)
  waits keepsUp armsInTime running :=
    (keepsUp armsInTime running).goOn
  fires _ taken keepsUp :=
    keepsUp.run taken

/-- A bench on which a work is begun. -/
def atWork
    (bench : Bench)
    (firing : Firing Work)
    (rest : Table Work) :
    Bench :=
  { bench with table := rest }.record (.fired bench.now firing)

/-- A bench after some steps of its loop and its callers, or amid the work of the last of them. -/
inductive Seen : List (LoopStep Call) → Bench → Prop where
  | between
      (steps : List (LoopStep Call)) :
      Seen steps (loopHost.follow (loopHost.begin {}) steps).world
  | amid
      {steps : List (LoopStep Call)}
      {firing : Firing Work}
      {rest : Table Work}
      (fires :
        loopHost.firing? (loopHost.follow (loopHost.begin {}) steps) = some (firing, rest))
      {done : List Action}
      (isPrefix : done <+: firing.alarm.work.script) :
      Seen (steps ++ [.turn])
        (((loopHost.follow (loopHost.begin {}) steps).world.atWork firing rest).performAll done).2

/-- The delay of a loop that begins with an empty bench. -/
def delayOf (steps : List (LoopStep Call)) : Delay :=
  loopHost.delay (loopHost.begin {}) {} steps

theorem Seen.keepsUp
    {steps : List (LoopStep Call)}
    (seen : Seen steps bench) :
    KeepsUp (delayOf steps).total bench := by
  have atStart : KeepsUp 0 {} := fun _ _ _ => Nat.zero_le _
  cases seen with
  | between =>
      exact kept_keepsUp.follow steps atStart
  | @amid steps firing rest fires done =>
      have before :
          KeepsUp (delayOf steps).total (loopHost.follow (loopHost.begin {}) steps).world :=
        kept_keepsUp.follow steps atStart
      obtain ⟨-, taken⟩ := LoopHost.takeDue?_of_firing?_eq_some fires
      have turned : delayOf (steps ++ [.turn]) = (delayOf steps).afterTurn true := by
        simp only [delayOf, LoopHost.delay_append, LoopHost.delay, LoopHost.delayAfter, fires,
          Option.isSome_some]
      rw [turned]
      exact ((kept_keepsUp.beforeFiring before).begin taken).performAll done

/-- A work arms its slot again with the same deadline, and so goes first once more. -/
def armedAgain : List (LoopStep Call) :=
  [.call (.perform (.create "first")),
    .call (.perform (.create "second")),
    .call (.perform (.schedule 0 1 "arms" [.schedule 0 0 "armed" []])),
    .call (.perform (.schedule 1 1 "waits" [])),
    .turn, .elapse, .turn, .turn, .elapse, .turn, .turn]

/-- Two slots, of which the first is armed. -/
def oneArmed : List (LoopStep Call) :=
  [.call (.perform (.create "first")),
    .call (.perform (.create "second")),
    .call (.perform (.schedule 0 1 "waits" [])),
    .turn]

/-- The first slot has been kept waiting. -/
structure KeepsWaiting (bench : Bench) : Prop where
  size : bench.table.size = 2
  armed : bench.table.alarm? 0 = some ⟨1, "waits", []⟩
  armsInTime : ArmsInTime bench

/-- A call that arms the second slot re-arms the loop and leaves the first slot as it is. -/
theorem KeepsWaiting.answer
    (waiting : KeepsWaiting bench) :
    let later : Bench := { bench with now := bench.now + 1 }
    answerRearms (.perform (.schedule 1 0 "next" [])) later = true ∧
      KeepsWaiting (answer (.perform (.schedule 1 0 "next" [])) later) := by
  intro later
  have known : 1 < later.table.size := by
    have size : later.table.size = 2 := waiting.size
    omega
  have putIs :
      later.perform (.schedule 1 0 "next" []) =
        (.done,
          { later with
            table := later.table.replace 1 (some ⟨(later.now : Nat), "next", []⟩) }.record
              (.replaced later.now 1 (some ⟨(later.now : Nat), "next", []⟩))) := by
    simp only [perform, put, Table.put, if_pos known, Nat.add_zero]
  simp only [answerRearms, Bench.answer, putIs]
  refine ⟨rfl, ⟨(Table.size_replace ..).trans waiting.size, ?_, ?_⟩⟩
  · exact (Table.alarm?_replace_of_lt known 0 _).trans waiting.armed
  · intro time handle alarm member
    rcases List.mem_append.mp member with isOld | isNew
    · exact waiting.armsInTime time handle alarm isOld
    · cases List.mem_singleton.mp isNew
      exact Int.le_refl _

/--
If another slot is armed in every millisecond before the loop takes its turn, a slot waits
without end.
-/
theorem keepsWaiting_outrun
    (milliseconds : Nat) :
    let steps := oneArmed ++ LoopHost.outrun (.perform (.schedule 1 0 "next" [])) milliseconds
    let bench := (loopHost.follow (loopHost.begin {}) steps).world
    bench.now = milliseconds ∧
      bench.table.alarm? 0 = some ⟨1, "waits", []⟩ ∧
        ArmsInTime bench := by
  intro steps bench
  have atStart : KeepsWaiting (loopHost.follow (loopHost.begin {}) oneArmed).world := by
    refine ⟨rfl, rfl, ?_⟩
    intro time handle alarm member
    cases List.mem_singleton.mp member
    decide
  have kept (bench : Bench) (waiting : KeepsWaiting bench) :
      let later := loopHost.withNow bench (loopHost.now bench + 1)
      loopHost.callRearms (.perform (.schedule 1 0 "next" [])) later = true ∧
        KeepsWaiting (loopHost.call (.perform (.schedule 1 0 "next" [])) later) :=
    waiting.answer
  obtain ⟨waiting, clock⟩ := LoopHost.follow_outrun kept milliseconds atStart
  have benchIs :
      bench =
        (loopHost.follow (loopHost.follow (loopHost.begin {}) oneArmed)
          (LoopHost.outrun (.perform (.schedule 1 0 "next" [])) milliseconds)).world :=
    congrArg Loop.world (LoopHost.follow_append ..)
  rw [← benchIs] at waiting clock
  exact ⟨clock.trans (Nat.zero_add _), waiting.armed, waiting.armsInTime⟩

end Bench

end RefreshRate.Timer
