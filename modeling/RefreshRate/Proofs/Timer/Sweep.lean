import Mathlib.Data.List.Sort
import RefreshRate.Proofs.Timer.Watch

namespace RefreshRate.Timer

/-!
# One sweep over the agenda

Where works leave the table alone, all that will happen is settled when time begins to
pass.  The armed slots are sorted once, by deadline and then by handle.  One after another
they fire at their deadlines, but never in a millisecond that is over or in which another
has fired, so a backlog holds up what comes after it until there is a gap.
-/

namespace Firing

variable {Work : Type}

/-- By deadline first and then by handle, or the same. -/
def NotAfter
    (first second : Firing Work) :
    Prop :=
  first.Precedes second.handle second.alarm

/-- By deadline first and then by handle. -/
def Before
    (first second : Firing Work) :
    Prop :=
  first.alarm.deadline < second.alarm.deadline ∨
    first.alarm.deadline = second.alarm.deadline ∧ first.handle < second.handle

instance (first second : Firing Work) : Decidable (first.NotAfter second) :=
  inferInstanceAs (Decidable (_ ∨ _))

instance : Std.Total (@NotAfter Work) where
  total first second := by
    simp only [NotAfter, Precedes]
    omega

instance : IsTrans (Firing Work) NotAfter where
  trans first second third := by
    simp only [NotAfter, Precedes]
    omega

instance : Std.Irrefl (@Before Work) where
  irrefl firing := by
    simp only [Before]
    omega

instance : Std.Antisymm (@Before Work) where
  antisymm first second := by
    simp only [Before]
    omega

theorem NotAfter.before
    {first second : Firing Work}
    (notAfter : first.NotAfter second)
    (different : first.handle ≠ second.handle) :
    first.Before second := by
  simp only [NotAfter, Precedes, Before] at notAfter ⊢
  omega

theorem Before.precedes
    {first second : Firing Work}
    (before : first.Before second) :
    first.Precedes second.handle second.alarm := by
  simp only [Before, Precedes] at before ⊢
  omega

end Firing

/-- What fires when: each work at its deadline, but after now and after the work before it. -/
def sweep
    {Work : Type}
    (now : Nat) :
    List (Firing Work) → List (Nat × Firing Work)
  | [] =>
      []
  | firing :: later =>
      let time := max firing.alarm.deadline.toNat (now + 1)
      (time, firing) :: sweep time later

section Sweep

variable
  {Work : Type}
  {now : Nat}
  {agenda : List (Firing Work)}
  {fire : Nat × Firing Work}

theorem lt_of_mem_sweep
    (member : fire ∈ sweep now agenda) :
    now < fire.1 := by
  induction agenda generalizing now with
  | nil =>
      cases member
  | cons firing later inductionHypothesis =>
      rcases List.mem_cons.mp member with rfl | isLater
      · exact Nat.lt_of_succ_le (Nat.le_max_right ..)
      · exact Nat.lt_of_le_of_lt (Nat.le_of_succ_le (Nat.le_max_right ..))
          (inductionHypothesis isLater)

/-- As long as nothing is due, it does not matter when a sweep begins. -/
theorem sweep_succ
    (notYet : ∀ firing ∈ agenda, (now + 1 : Nat) < firing.alarm.deadline) :
    sweep (now + 1) agenda = sweep now agenda := by
  cases agenda with
  | nil =>
      rfl
  | cons firing later =>
      have ahead := notYet firing List.mem_cons_self
      have sameTime :
          max firing.alarm.deadline.toNat (now + 1 + 1) =
            max firing.alarm.deadline.toNat (now + 1) := by
        omega
      simp only [sweep, sameTime]

/-- A work that is due fires in the next millisecond. -/
theorem sweep_cons_of_due
    {firing : Firing Work}
    (due : firing.alarm.deadline ≤ (now + 1 : Nat)) :
    sweep now (firing :: agenda) = (now + 1, firing) :: sweep (now + 1) agenda := by
  have nextTime : max firing.alarm.deadline.toNat (now + 1) = now + 1 := by
    omega
  simp only [sweep, nextTime]

end Sweep

namespace Table

variable
  {Work : Type}
  {table : Table Work}
  {firing head : Firing Work}
  {later : List (Firing Work)}
  {handle now target : Nat}
  {alarm : Alarm Work}

/-- The armed slots, by handle. -/
def armedSlots (table : Table Work) : List (Firing Work) :=
  table.slots.zipIdx.filterMap fun (slot, handle) =>
    slot.alarm?.map fun alarm => ⟨handle, slot.name, alarm⟩

/-- The armed slots, by deadline and then by handle. -/
def agenda (table : Table Work) : List (Firing Work) :=
  table.armedSlots.insertionSort Firing.NotAfter

/-- What fires up to a target time in one sweep. -/
def firesUpTo
    (table : Table Work)
    (target now : Nat) :
    List (Nat × Firing Work) :=
  (sweep now table.agenda).filter fun fire => decide (fire.1 ≤ target)

theorem mem_armedSlots_iff :
    firing ∈ table.armedSlots ↔
      table.slots[firing.handle]? = some ⟨firing.slotName, some firing.alarm⟩ := by
  simp only [armedSlots, List.mem_filterMap, List.mem_zipIdx_iff_getElem?]
  constructor
  · rintro ⟨⟨⟨name, alarm?⟩, handle⟩, present, isFiring⟩
    obtain ⟨alarm, rfl, rfl⟩ := Option.map_eq_some_iff.mp isFiring
    exact present
  · intro present
    exact ⟨(⟨firing.slotName, some firing.alarm⟩, firing.handle), present, rfl⟩

theorem mem_agenda_iff :
    firing ∈ table.agenda ↔
      table.slots[firing.handle]? = some ⟨firing.slotName, some firing.alarm⟩ := by
  rw [agenda, List.mem_insertionSort, mem_armedSlots_iff]

theorem exists_mem_agenda_of_alarm?
    (isArmed : table.alarm? handle = some alarm) :
    ∃ name, ⟨handle, name, alarm⟩ ∈ table.agenda := by
  obtain ⟨⟨name, alarm?⟩, present, rfl⟩ := Option.bind_eq_some_iff.mp isArmed
  exact ⟨name, mem_agenda_iff.mpr present⟩

/-- Every slot is at most once among those that are armed. -/
theorem pairwise_armedSlots (table : Table Work) :
    table.armedSlots.Pairwise fun first second => first.handle ≠ second.handle := by
  have ascending : table.slots.zipIdx.Pairwise fun first second => first.2 ≠ second.2 := by
    have handles := (List.pairwise_lt_range' (s := 0) (n := table.slots.length)).imp Nat.ne_of_lt
    rw [← List.zipIdx_map_snd, List.pairwise_map] at handles
    exact handles
  refine List.Pairwise.filterMap _ ?_ ascending
  intro first second different firstFiring isFirst secondFiring isSecond
  obtain ⟨_, -, rfl⟩ := Option.map_eq_some_iff.mp isFirst
  obtain ⟨_, -, rfl⟩ := Option.map_eq_some_iff.mp isSecond
  exact different

theorem pairwise_agenda (table : Table Work) : table.agenda.Pairwise Firing.Before := by
  have sorted := List.pairwise_insertionSort Firing.NotAfter table.armedSlots
  have distinct :=
    ((List.perm_insertionSort Firing.NotAfter table.armedSlots).pairwise_iff Ne.symm).mpr
      table.pairwise_armedSlots
  exact (sorted.and distinct).imp fun both => both.1.before both.2

theorem getElem?_replace
    (table : Table Work)
    (handle other : Nat)
    (alarm? : Option (Alarm Work)) :
    (table.replace handle alarm?).slots[other]? =
      table.slots[other]?.map fun slot =>
        if handle = other then { slot with alarm? } else slot := by
  simp only [replace, List.getElem?_modify, Option.map_eq_map]

/-- Once the first of the agenda is asleep, the others make up the agenda. -/
theorem agenda_replace_head
    (isAgenda : table.agenda = head :: later) :
    (table.replace head.handle none).agenda = later := by
  have sorted := table.pairwise_agenda
  rw [isAgenda, List.pairwise_cons] at sorted
  obtain ⟨headBefore, laterSorted⟩ := sorted
  have headSlot := mem_agenda_iff.mp (isAgenda ▸ List.mem_cons_self)
  refine (pairwise_agenda _).eq_of_mem_iff laterSorted fun firing => ?_
  rw [mem_agenda_iff, getElem?_replace]
  by_cases same : head.handle = firing.handle
  · simp only [← same, headSlot, Option.map_some]
    constructor
    · intro isAsleep
      simp at isAsleep
    · intro isLater
      have firingSlot := mem_agenda_iff.mp (isAgenda ▸ List.mem_cons_of_mem head isLater)
      rw [← same, headSlot] at firingSlot
      have before := headBefore firing isLater
      simp only [Option.some.injEq, Slot.mk.injEq] at firingSlot
      simp only [Firing.Before, same, firingSlot.2] at before
      omega
  · have isOther : firing ≠ head := by
      rintro rfl
      exact same rfl
    simp only [if_neg same, Option.map_id', ← mem_agenda_iff, isAgenda, List.mem_cons]
    exact or_iff_right isOther

theorem isLeastDue_of_agenda
    (isAgenda : table.agenda = head :: later)
    (due : head.alarm.deadline ≤ (now : Int)) :
    table.IsLeastDue now head := by
  refine ⟨mem_agenda_iff.mp (isAgenda ▸ List.mem_cons_self), due, ?_⟩
  intro handle alarm isArmed _
  obtain ⟨name, member⟩ := exists_mem_agenda_of_alarm? isArmed
  rw [isAgenda] at member
  rcases List.mem_cons.mp member with rfl | isLater
  · exact .inr ⟨rfl, Nat.le_refl _⟩
  · have sorted := table.pairwise_agenda
    rw [isAgenda, List.pairwise_cons] at sorted
    exact (sorted.1 _ isLater).precedes

theorem nothingDue_of_agenda
    (notYet : ∀ firing ∈ table.agenda, (now : Int) < firing.alarm.deadline) :
    table.NothingDue now := by
  intro handle alarm isArmed
  obtain ⟨name, member⟩ := exists_mem_agenda_of_alarm? isArmed
  exact notYet _ member

/-- Either nothing on the agenda is due, or the first of it is. -/
theorem notYet_or_exists_due
    (table : Table Work)
    (now : Nat) :
    (∀ firing ∈ table.agenda, (now : Int) < firing.alarm.deadline) ∨
      ∃ head later, table.agenda = head :: later ∧ head.alarm.deadline ≤ (now : Int) := by
  have sorted := table.pairwise_agenda
  cases isAgenda : table.agenda with
  | nil =>
      exact .inl fun firing member => nomatch member
  | cons head later =>
      by_cases due : head.alarm.deadline ≤ (now : Int)
      · exact .inr ⟨head, later, rfl, due⟩
      · rw [isAgenda, List.pairwise_cons] at sorted
        refine .inl fun firing member => ?_
        rcases List.mem_cons.mp member with rfl | isLater
        · exact Int.not_le.mp due
        · have before := sorted.1 firing isLater
          simp only [Firing.Before] at before
          omega

theorem firesUpTo_self
    (table : Table Work)
    (now : Nat) :
    table.firesUpTo now now = [] := by
  refine List.filter_eq_nil_iff.mpr fun fire member inTime => ?_
  exact Nat.not_le.mpr (lt_of_mem_sweep member) (of_decide_eq_true inTime)

theorem firesUpTo_succ
    (notYet : ∀ firing ∈ table.agenda, (now + 1 : Nat) < firing.alarm.deadline) :
    table.firesUpTo target (now + 1) = table.firesUpTo target now := by
  rw [firesUpTo, sweep_succ notYet, firesUpTo]

/-- If the first of the agenda is due, it fires, and the sweep goes on with the others. -/
theorem firesUpTo_of_due
    (isAgenda : table.agenda = head :: later)
    (due : head.alarm.deadline ≤ (now + 1 : Nat))
    (inTime : now + 1 ≤ target) :
    table.firesUpTo target now =
      (now + 1, head) :: (table.replace head.handle none).firesUpTo target (now + 1) := by
  rw [firesUpTo, isAgenda, sweep_cons_of_due due, firesUpTo, agenda_replace_head isAgenda]
  exact List.filter_cons_of_pos (decide_eq_true inTime)

/-- The slots of what has fired sleep, and nothing else has changed. -/
def LeftBy
    (table final : Table Work)
    (fires : List (Nat × Firing Work)) :
    Prop :=
  ∀ handle,
    final.slots[handle]? =
      table.slots[handle]?.map fun slot =>
        if handle ∈ fires.map (·.2.handle) then { slot with alarm? := none } else slot

theorem leftBy_nil (table : Table Work) : table.LeftBy table [] := by
  intro handle
  simp

theorem LeftBy.cons
    {final : Table Work}
    {fires : List (Nat × Firing Work)}
    {time : Nat}
    (leftBy : (table.replace firing.handle none).LeftBy final fires) :
    table.LeftBy final ((time, firing) :: fires) := by
  intro handle
  rw [leftBy handle, getElem?_replace, Option.map_map]
  congr 1
  funext slot
  by_cases same : firing.handle = handle
  · simp [same]
  · have isOther : handle ∈ ((time, firing) :: fires).map (·.2.handle) ↔
        handle ∈ fires.map (·.2.handle) := by
      rw [List.map_cons, List.mem_cons]
      exact or_iff_right (Ne.symm same)
    simp only [Function.comp_apply, isOther, if_neg same]

end Table

namespace Host

variable
  {World Work : Type}
  {host : Host World Work}

/-- The work of a firing does nothing to the table. -/
def LeavesTable
    (host : Host World Work)
    (firing : Firing Work) :
    Prop :=
  ∀ now world, host.table (host.run now firing world) = host.table world

section Undisturbed

variable
  (isLawful : ∀ world table, host.table (host.withTable world table) = table)
  (milliseconds now : Nat)
  (world : World)
  (undisturbed : ∀ firing ∈ (host.table world).agenda, host.LeavesTable firing)

include isLawful undisturbed

/-- To watch a host whose works leave the table alone is to sweep over its agenda. -/
theorem exists_watched_sweep :
    ∃ final,
      Watched host milliseconds now world
          ((host.table world).firesUpTo (now + milliseconds) now) final ∧
        (host.table world).LeftBy (host.table final)
          ((host.table world).firesUpTo (now + milliseconds) now) := by
  induction milliseconds generalizing now world with
  | zero =>
      rw [Nat.add_zero, Table.firesUpTo_self]
      exact ⟨world, .ended now world, Table.leftBy_nil _⟩
  | succ milliseconds inductionHypothesis =>
      have sameTarget : now + (milliseconds + 1) = now + 1 + milliseconds := by
        omega
      rw [sameTarget]
      rcases (host.table world).notYet_or_exists_due (now + 1) with
        notYet | ⟨head, later, isAgenda, due⟩
      · rw [← Table.firesUpTo_succ notYet]
        obtain ⟨final, watched, leftBy⟩ := inductionHypothesis (now + 1) world undisturbed
        exact ⟨final, .idled (Table.nothingDue_of_agenda notYet) watched, leftBy⟩
      · rw [Table.firesUpTo_of_due isAgenda due (Nat.le_add_right ..)]
        have headLeavesTable : host.LeavesTable head :=
          undisturbed head (isAgenda ▸ List.mem_cons_self)
        let woken :=
          host.run (now + 1) head
            (host.withTable world ((host.table world).replace head.handle none))
        have tableOfWoken :
            host.table woken = (host.table world).replace head.handle none := by
          rw [headLeavesTable, isLawful]
        have stillUndisturbed :
            ∀ firing ∈ (host.table woken).agenda, host.LeavesTable firing := by
          rw [tableOfWoken, Table.agenda_replace_head isAgenda]
          exact fun firing isLater =>
            undisturbed firing (isAgenda ▸ List.mem_cons_of_mem head isLater)
        obtain ⟨final, watched, leftBy⟩ :=
          inductionHypothesis (now + 1) woken stillUndisturbed
        rw [tableOfWoken] at watched leftBy
        exact
          ⟨final, .fired (Table.isLeastDue_of_agenda isAgenda due) watched, leftBy.cons⟩

/-- The same alarms fire in a host that sleeps, and the same slots sleep in the end. -/
theorem advance_recording_eq_sweep :
    host.recording.advance (now + milliseconds) now (world, []) =
        (host.advance (now + milliseconds) now world,
          (host.table world).firesUpTo (now + milliseconds) now) ∧
      (host.table world).LeftBy (host.table (host.advance (now + milliseconds) now world))
        ((host.table world).firesUpTo (now + milliseconds) now) := by
  obtain ⟨final, watched, leftBy⟩ :=
    exists_watched_sweep isLawful milliseconds now world undisturbed
  obtain ⟨fires, recorded, -⟩ := exists_slept host (now + milliseconds) now world []
  have swept := (watched_iff_advance_recording milliseconds now world).mp watched
  have sameEnd := recorded.symm.trans swept
  simp only [List.nil_append, Prod.mk.injEq] at sameEnd
  obtain ⟨rfl, rfl⟩ := sameEnd
  exact ⟨swept, leftBy⟩

end Undisturbed

end Host

namespace Bench

variable {bench final : Bench}

theorem fired_record
    (bench : Bench)
    (event : Event) :
    (bench.record event).fired = bench.fired ++ event.fired?.toList := by
  simp only [fired, record, List.filterMap_append, List.filterMap_cons, List.filterMap_nil]
  cases event.fired? with
  | none =>
      rfl
  | some _ =>
      rfl

/-- Only the bench itself lets works fire. -/
theorem Performed.fired_eq
    (performed : Performed bench final) :
    final.fired = bench.fired := by
  cases performed with
  | nothing | created =>
      rfl
  | replaced handle alarm? known =>
      rw [fired_record]
      exact List.append_nil _

theorem fired_performAll
    (bench : Bench)
    (script : List Action) :
    (bench.performAll script).2.fired = bench.fired := by
  refine performAll_induction (motive := fun after => after.fired = bench.fired) ?_ rfl script
  intro between action sameFired
  exact (performed_perform between action).fired_eq.trans sameFired

theorem fired_run
    (now : Nat)
    (firing : Firing Work)
    (bench : Bench) :
    (bench.run now firing).fired = bench.fired ++ [(now, firing.alarm.work.name)] := by
  have performed :=
    fired_performAll ({ bench with now }.record (.fired now firing)) firing.alarm.work.script
  rw [fired_record] at performed
  simp only [run]
  split
  · rw [fired_record, performed]
    exact List.append_nil _
  · exact performed

/-- What a watch sees is what the bench records. -/
theorem fired_of_watched
    {milliseconds now : Nat}
    {fires : List (Nat × Firing Work)}
    (watched : Host.Watched host milliseconds now bench fires final) :
    final.fired =
      bench.fired ++ fires.map fun fire => (fire.1, fire.2.alarm.work.name) := by
  induction watched with
  | ended =>
      exact (List.append_nil _).symm
  | idled nothingDue onwards inductionHypothesis =>
      exact inductionHypothesis
  | fired isLeastDue onwards inductionHypothesis =>
      rw [inductionHypothesis]
      simp only [host, fired_run]
      rw [List.append_assoc]
      rfl

end Bench

/-- An action that asks, or that panics. -/
def Action.isInert : Action → Bool
  | .isArmed _ | .panic _ =>
      true
  | _ =>
      false

namespace Bench

theorem table_performAll_of_isInert
    {script : List Action}
    (inert : script.all Action.isInert = true)
    (bench : Bench) :
    (bench.performAll script).2.table = bench.table := by
  induction script generalizing bench with
  | nil =>
      rfl
  | cons action rest inductionHypothesis =>
      obtain ⟨actionInert, restInert⟩ := Bool.and_eq_true_iff.mp inert
      cases action with
      | isArmed handle =>
          exact inductionHypothesis restInert bench
      | panic message =>
          rfl
      | _ =>
          cases actionInert

/-- A work that only asks and panics leaves the table alone. -/
theorem leavesTable_of_isInert
    {firing : Firing Work}
    (inert : firing.alarm.work.script.all Action.isInert = true) :
    host.LeavesTable firing := by
  intro now bench
  have sameTable :=
    table_performAll_of_isInert inert ({ bench with now }.record (.fired now firing))
  simp only [host, run]
  split
  · exact sameTable
  · exact sameTable

/--
Sort the armed slots by deadline and then by handle, and give each the time of its deadline
or, if that is later, the first millisecond after now and after the slot before it.  If the
works do not touch the table, then what fires while some time passes is just what has a
time up to its end, at these times and in this order.  These slots sleep afterwards, and all
others are as they were.  This is so for every host that gives back the table that was put
into it, and on a bench that has not been stopped.
-/
theorem advance_agrees_with_sweep :
    (∀ {Work : Type} (table : Table Work),
        table.agenda.Pairwise Firing.Before ∧
          ∀ firing,
            firing ∈ table.agenda ↔
              table.slots[firing.handle]? = some ⟨firing.slotName, some firing.alarm⟩) ∧
      (∀ {World Work : Type} (host : Host World Work) (milliseconds now : Nat) (world : World),
        (∀ world table, host.table (host.withTable world table) = table) →
          (∀ firing ∈ (host.table world).agenda, host.LeavesTable firing) →
            let fires := (host.table world).firesUpTo (now + milliseconds) now
            let final := host.advance (now + milliseconds) now world
            host.recording.advance (now + milliseconds) now (world, []) = (final, fires) ∧
              (host.table world).LeftBy (host.table final) fires) ∧
        ∀ (bench : Bench) (milliseconds : Nat),
          bench.isStopped = false →
            (∀ firing ∈ bench.table.agenda, host.LeavesTable firing) →
              let fires := bench.table.firesUpTo (bench.now + milliseconds) bench.now
              let final := bench.advance milliseconds
              final.fired =
                  bench.fired ++ fires.map (fun fire => (fire.1, fire.2.alarm.work.name)) ∧
                bench.table.LeftBy final.table fires ∧
                  final.now = bench.now + milliseconds := by
  refine ⟨?_, ?_, ?_⟩
  · intro Work table
    exact ⟨table.pairwise_agenda, fun firing => Table.mem_agenda_iff⟩
  · intro World Work host milliseconds now world isLawful undisturbed
    exact Host.advance_recording_eq_sweep isLawful milliseconds now world undisturbed
  · intro bench milliseconds running undisturbed
    have isLawful : ∀ bench table, host.table (host.withTable bench table) = table :=
      fun _ _ => rfl
    obtain ⟨swept, leftBy⟩ :=
      Host.advance_recording_eq_sweep isLawful milliseconds bench.now bench undisturbed
    have watched := (Host.watched_iff_advance_recording milliseconds bench.now bench).mpr swept
    have recorded := fired_of_watched watched
    have notStopped : ¬bench.isStopped = true := Bool.eq_false_iff.mp running
    simp only [advance, if_neg notStopped]
    exact ⟨recorded, leftBy, trivial⟩

/-- At five there are two late works with one deadline, one that is due soon, and a gap. -/
def backlog : Bench where
  now := 5
  table :=
    { slots :=
        [⟨"far", some ⟨20, "far", []⟩⟩,
          ⟨"late", some ⟨2, "late", [.panic "broken"]⟩⟩,
          ⟨"asleep", none⟩,
          ⟨"later", some ⟨2, "later", [.isArmed 0]⟩⟩,
          ⟨"soon", some ⟨6, "soon", []⟩⟩,
          ⟨"after", some ⟨20, "after", []⟩⟩,
          ⟨"early", some ⟨-3, "early", []⟩⟩] }

theorem advance_sweeps_backlog :
    backlog.isStopped = false ∧
      (∀ firing ∈ backlog.table.agenda, host.LeavesTable firing) ∧
        (host.recording.advance 20 5 (backlog, [])).2.map Prod.fst = [6, 7, 8, 9, 20] ∧
          (backlog.advance 15).fired =
              [(6, "early"), (7, "late"), (8, "later"), (9, "soon"), (20, "far")] ∧
            (backlog.advance 15).table.slots[5]? = some ⟨"after", some ⟨20, "after", []⟩⟩ := by
  have inert :
      backlog.table.agenda.all (·.alarm.work.script.all Action.isInert) = true := by
    rfl
  have undisturbed : ∀ firing ∈ backlog.table.agenda, host.LeavesTable firing :=
    fun firing member => leavesTable_of_isInert (List.all_eq_true.mp inert firing member)
  obtain ⟨-, onHosts, onBenches⟩ := advance_agrees_with_sweep
  obtain ⟨recorded, -⟩ := onHosts host 15 5 backlog (fun _ _ => rfl) undisturbed
  obtain ⟨fired, leftBy, -⟩ := onBenches backlog 15 rfl undisturbed
  refine ⟨rfl, undisturbed, ?_, fired, leftBy 5⟩
  rw [recorded]
  rfl

end Bench

end RefreshRate.Timer
