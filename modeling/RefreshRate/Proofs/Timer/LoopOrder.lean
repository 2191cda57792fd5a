import RefreshRate.Proofs.Timer.Due
import RefreshRate.Timer.Loop

namespace RefreshRate.Timer

/-!
# The order of callers and loop

Nothing says who comes first in a millisecond, the loop or those who call.  A caller who
re-arms the loop before it takes its turn makes it pass over what is due, and may do so in
every millisecond.  So whatever bounds how late an alarm can be also counts the milliseconds
in which the loop was passed over.  There are none of them in a run in which the loop comes
first: it is at rest when the clock goes on, and takes its turn before anyone calls.
-/

/-- How often a loop was passed over. -/
structure Delay where
  /-- The milliseconds that began with something due and ended without a firing. -/
  passedOver : Nat := 0
  /-- Whether this millisecond began with something due, and nothing has fired in it. -/
  owes : Bool := false
  deriving Repr, DecidableEq

namespace Delay

/-- The milliseconds in which the loop was passed over, this one included. -/
def total (delay : Delay) : Nat :=
  delay.passedOver + delay.owes.toNat

/-- A millisecond begins. -/
def goOn
    (delay : Delay)
    (isDue : Bool) :
    Delay :=
  ⟨delay.total, isDue⟩

/-- The loop has taken its turn. -/
def afterTurn
    (delay : Delay)
    (hasFired : Bool) :
    Delay :=
  { delay with owes := delay.owes && !hasFired }

variable (delay : Delay)

@[simp] theorem total_goOn (isDue : Bool) :
    (delay.goOn isDue).total = delay.total + isDue.toNat :=
  rfl

@[simp] theorem afterTurn_false : delay.afterTurn false = delay := by
  simp [afterTurn]

@[simp] theorem total_afterTurn_true : (delay.afterTurn true).total = delay.passedOver := by
  simp [afterTurn, total]

/-- A firing takes the millisecond away in which it happens, if that was counted. -/
theorem total_eq_or_of_afterTurn_true :
    delay.total = (delay.afterTurn true).total ∨
      delay.total = (delay.afterTurn true).total + 1 := by
  cases owes : delay.owes <;> simp [total, afterTurn, owes]

theorem total_afterTurn_le (hasFired : Bool) : (delay.afterTurn hasFired).total ≤ delay.total := by
  cases hasFired with
  | false =>
      exact Nat.le_of_eq (congrArg total delay.afterTurn_false)
  | true =>
      rcases delay.total_eq_or_of_afterTurn_true with same | oneMore
      · exact Nat.le_of_eq same.symm
      · exact oneMore ▸ Nat.le_succ _

theorem total_le_afterTurn_add_one (hasFired : Bool) :
    delay.total ≤ (delay.afterTurn hasFired).total + 1 := by
  cases hasFired with
  | false =>
      rw [afterTurn_false]
      exact Nat.le_succ _
  | true =>
      rcases delay.total_eq_or_of_afterTurn_true with same | oneMore
      · exact Nat.le_succ_of_le (Nat.le_of_eq same)
      · exact Nat.le_of_eq oneMore

end Delay

namespace LoopHost

variable {World Work Call : Type}

/-- Whether something is due that the loop has not been stopped from firing. -/
def isDue
    (host : LoopHost World Work Call)
    (world : World) :
    Bool :=
  !host.isStopped world && ((host.table world).takeDue? (host.now world)).isSome

theorem takeDue?_eq_none_of_isDue_eq_false
    {host : LoopHost World Work Call}
    {world : World}
    (running : host.isStopped world = false)
    (notDue : host.isDue world = false) :
    (host.table world).takeDue? (host.now world) = none := by
  simpa [isDue, running] using notDue

/-- What a step adds to the delay. -/
def delayAfter
    (host : LoopHost World Work Call)
    (loop : Loop World)
    (delay : Delay) :
    LoopStep Call → Delay
  | .call _ =>
      delay
  | .elapse =>
      delay.goOn (host.isDue (host.step loop .elapse).world)
  | .turn =>
      delay.afterTurn (host.firing? loop).isSome

/-- The delay of a loop that takes steps. -/
def delay
    (host : LoopHost World Work Call)
    (loop : Loop World)
    (before : Delay) :
    List (LoopStep Call) → Delay
  | [] =>
      before
  | step :: rest =>
      host.delay (host.step loop step) (host.delayAfter loop before step) rest

/-- Whether nothing is to be done for the loop until its time comes. -/
def isAtRest
    (host : LoopHost World Work Call)
    (loop : Loop World) :
    Bool :=
  host.isStopped loop.world || !loop.isRearmed && !host.isOver loop

/--
Whether the loop comes first in each millisecond: it is at rest when the clock goes on, and
takes its turn before anyone calls.
-/
def comesFirst
    (host : LoopHost World Work Call)
    (loop : Loop World) :
    List (LoopStep Call) → Bool
  | [] =>
      true
  | .call call :: rest =>
      host.comesFirst (host.step loop (.call call)) rest
  | .turn :: rest =>
      host.comesFirst (host.turn loop) rest
  | .elapse :: .turn :: rest =>
      host.isAtRest loop &&
        host.comesFirst (host.turn (host.step loop .elapse)) rest
  | .elapse :: _ =>
      false

/-- Without a permit the loop waits for the next wake-up of the table as it is. -/
def IsFresh
    (host : LoopHost World Work Call)
    (loop : Loop World) :
    Prop :=
  loop.isRearmed = false →
    ∃ since ≤ host.now loop.world,
      loop.wakeUp? = (host.table loop.world).nextWakeUp? since

variable
  {host : LoopHost World Work Call}
  {loop : Loop World}

@[simp] theorem follow_nil (loop : Loop World) : host.follow loop [] = loop :=
  rfl

@[simp] theorem follow_cons
    (loop : Loop World)
    (step : LoopStep Call)
    (steps : List (LoopStep Call)) :
    host.follow loop (step :: steps) = host.follow (host.step loop step) steps :=
  rfl

@[simp] theorem follow_append
    (loop : Loop World)
    (steps more : List (LoopStep Call)) :
    host.follow loop (steps ++ more) = host.follow (host.follow loop steps) more :=
  List.foldl_append

/-- The delay goes on from that of the steps before. -/
@[simp] theorem delay_append
    (loop : Loop World)
    (before : Delay)
    (steps more : List (LoopStep Call)) :
    host.delay loop before (steps ++ more) =
      host.delay (host.follow loop steps) (host.delay loop before steps) more := by
  induction steps generalizing loop before with
  | nil =>
      rfl
  | cons step rest inductionHypothesis =>
      exact inductionHypothesis _ _

/-- What a turn of the loop can do. -/
inductive Turned
    (host : LoopHost World Work Call)
    (loop : Loop World) :
    Loop World → Prop where
  | stopped
      (isStopped : host.isStopped loop.world = true) :
      Turned host loop loop
  /-- The loop takes its permit and looks again. -/
  | rearmed
      (running : host.isStopped loop.world = false)
      (isRearmed : loop.isRearmed = true) :
      Turned host loop (host.look { loop with isRearmed := false })
  /-- The time of the loop has not come. -/
  | waits
      (running : host.isStopped loop.world = false)
      (notRearmed : loop.isRearmed = false)
      (notOver : host.isOver loop = false) :
      Turned host loop loop
  /-- The time of the loop has come, but nothing is due. -/
  | looksAgain
      (running : host.isStopped loop.world = false)
      (notRearmed : loop.isRearmed = false)
      (isOver : host.isOver loop = true)
      (nothingDue : (host.table loop.world).takeDue? (host.now loop.world) = none) :
      Turned host loop (host.look loop)
  | fires
      (firing : Firing Work)
      (rest : Table Work)
      (running : host.isStopped loop.world = false)
      (firingIs : host.firing? loop = some (firing, rest))
      (taken :
        (host.table loop.world).takeDue? (host.now loop.world) = some (firing, rest)) :
      Turned host loop (host.fire loop firing rest)

theorem firing?_of_isOver
    (running : host.isStopped loop.world = false)
    (notRearmed : loop.isRearmed = false)
    (isOver : host.isOver loop = true) :
    host.firing? loop = (host.table loop.world).takeDue? (host.now loop.world) := by
  simp [firing?, running, notRearmed, isOver]

theorem turned_turn
    (host : LoopHost World Work Call)
    (loop : Loop World) :
    Turned host loop (host.turn loop) := by
  unfold turn
  cases running : host.isStopped loop.world with
  | true =>
      exact .stopped running
  | false =>
      cases rearmed : loop.isRearmed with
      | true =>
          exact .rearmed running rearmed
      | false =>
          simp only [Bool.false_eq_true, if_false]
          cases isOver : host.isOver loop with
          | false =>
              have nothingFires : host.firing? loop = none := by
                simp [firing?, isOver]
              simp only [nothingFires, Bool.false_eq_true, if_false]
              exact .waits running rearmed isOver
          | true =>
              have firingIs := firing?_of_isOver running rearmed isOver
              cases taken : (host.table loop.world).takeDue? (host.now loop.world) with
              | none =>
                  simp only [firingIs, taken, if_true]
                  exact .looksAgain running rearmed isOver taken
              | some both =>
                  obtain ⟨firing, rest⟩ := both
                  simp only [firingIs, taken]
                  exact .fires firing rest running (firingIs.trans taken) taken

/-- A turn in which nothing fires leaves the world as it is. -/
theorem world_turn_of_firing?_eq_none
    (nothingFires : host.firing? loop = none) :
    (host.turn loop).world = loop.world := by
  have turned := turned_turn host loop
  generalize host.turn loop = next at turned
  cases turned with
  | stopped | rearmed | waits | looksAgain =>
      rfl
  | fires firing rest running firingIs =>
      cases nothingFires.symm.trans firingIs

/-- What fires is due. -/
theorem takeDue?_of_firing?_eq_some
    {firing : Firing Work}
    {rest : Table Work}
    (firingIs : host.firing? loop = some (firing, rest)) :
    host.isStopped loop.world = false ∧
      (host.table loop.world).takeDue? (host.now loop.world) = some (firing, rest) := by
  unfold firing? at firingIs
  split at firingIs
  · cases firingIs
  · rename_i ready
    simp only [Bool.or_eq_true, not_or, Bool.not_eq_true] at ready
    exact ⟨ready.1.1, firingIs⟩

theorem turn_of_firing?_eq_some
    {firing : Firing Work}
    {rest : Table Work}
    (firingIs : host.firing? loop = some (firing, rest)) :
    host.turn loop = host.fire loop firing rest := by
  have ready := firingIs
  unfold firing? at ready
  split at ready
  · cases ready
  · rename_i notHindered
    simp only [Bool.or_eq_true, not_or, Bool.not_eq_true] at notHindered
    simp [turn, notHindered.1.1, notHindered.1.2, firingIs]

section Fresh

theorem isFresh_look (loop : Loop World) : host.IsFresh (host.look loop) :=
  fun _ => ⟨_, Nat.le_refl _, rfl⟩

theorem isOver_eq_false_iff :
    host.isOver loop = false ↔
      ∀ next, loop.wakeUp? = some next → host.now loop.world < next := by
  simp [isOver, Option.any_eq_false]

/-- After a look the time of the loop lies ahead. -/
theorem isOver_look (loop : Loop World) : host.isOver (host.look loop) = false :=
  isOver_eq_false_iff.mpr fun _ waits => Table.lt_of_nextWakeUp?_eq_some waits

theorem IsFresh.step
    (isFresh : host.IsFresh loop)
    (step : LoopStep Call) :
    host.IsFresh (host.step loop step) := by
  cases step with
  | call each =>
      intro notRearmed
      obtain ⟨wasNotRearmed, notNow⟩ := Bool.or_eq_false_iff.mp notRearmed
      obtain ⟨since, notAhead, waits⟩ := isFresh wasNotRearmed
      refine ⟨since, ?_, ?_⟩
      · exact Nat.le_trans notAhead (Nat.le_of_eq (host.now_call each loop.world).symm)
      · refine waits.trans ?_
        simp only [LoopHost.step, Table.nextWakeUp?, host.earliest?_call each loop.world notNow]
  | elapse =>
      intro notRearmed
      obtain ⟨since, notAhead, waits⟩ := isFresh notRearmed
      refine ⟨since, ?_, ?_⟩
      · simp only [LoopHost.step, host.now_withNow]
        exact Nat.le_succ_of_le notAhead
      · simpa only [LoopHost.step, host.table_withNow] using waits
  | turn =>
      have turned := turned_turn host loop
      simp only [LoopHost.step]
      generalize host.turn loop = next at turned
      cases turned with
      | stopped | waits =>
          exact isFresh
      | rearmed | looksAgain =>
          exact isFresh_look _
      | fires firing rest =>
          exact isFresh_look _

/-- A loop at rest fires what is due when the clock has gone on. -/
theorem IsFresh.firing?_isSome_of_isDue
    (isFresh : host.IsFresh loop)
    (isAtRest : host.isAtRest loop = true)
    (isDue : host.isDue (host.step loop .elapse).world = true) :
    (host.firing? (host.step loop .elapse)).isSome = true := by
  obtain ⟨isRunning, someDue⟩ := Bool.and_eq_true_iff.mp isDue
  have running : host.isStopped (host.step loop .elapse).world = false :=
    (Bool.not_eq_true' _).mp isRunning
  have wasRunning : host.isStopped loop.world = false :=
    (host.isStopped_withNow _ _).symm.trans running
  simp only [LoopHost.isAtRest, wasRunning, Bool.false_or, Bool.and_eq_true,
    Bool.not_eq_true'] at isAtRest
  obtain ⟨since, notAhead, waits⟩ := isFresh isAtRest.1
  have isOver : host.isOver (host.step loop .elapse) = true := by
    refine Bool.of_not_eq_false fun notOver => ?_
    have notYet := isOver_eq_false_iff.mp notOver
    simp only [LoopHost.step, host.now_withNow, host.table_withNow] at notYet someDue
    have nothingDue :
        (host.table loop.world).takeDue? (host.now loop.world + 1) = none := by
      refine Table.takeDue?_eq_none_of_lt_nextWakeUp (Nat.lt_succ_of_le notAhead) ?_
      intro next wakesUp
      exact notYet next (waits.trans wakesUp)
    rw [nothingDue] at someDue
    cases someDue
  rw [firing?_of_isOver running isAtRest.1 isOver]
  exact someDue

/-- A loop that comes first in each millisecond is never passed over. -/
theorem IsFresh.delay_total_of_comesFirst
    (isFresh : host.IsFresh loop)
    {steps : List (LoopStep Call)}
    (comesFirst : host.comesFirst loop steps = true)
    {before : Delay}
    (noDelay : before.total = 0) :
    (host.delay loop before steps).total = 0 := by
  fun_induction LoopHost.comesFirst host loop steps generalizing before with
  | case1 loop =>
      exact noDelay
  | case2 loop each rest inductionHypothesis =>
      exact inductionHypothesis (isFresh.step _) comesFirst noDelay
  | case3 loop rest inductionHypothesis =>
      refine inductionHypothesis (isFresh.step .turn) comesFirst ?_
      have bound := before.total_afterTurn_le (host.firing? loop).isSome
      exact Nat.le_zero.mp (noDelay ▸ bound)
  | case4 loop rest inductionHypothesis =>
      obtain ⟨isAtRest, restComesFirst⟩ := Bool.and_eq_true_iff.mp comesFirst
      refine inductionHypothesis ((isFresh.step .elapse).step .turn) restComesFirst ?_
      cases isDue : host.isDue (host.step loop .elapse).world with
      | true =>
          have fires := isFresh.firing?_isSome_of_isDue isAtRest isDue
          simpa [LoopHost.delayAfter, fires, Delay.goOn] using noDelay
      | false =>
          have bound :=
            (before.goOn false).total_afterTurn_le (host.firing? (host.step loop .elapse)).isSome
          simp only [Delay.total_goOn, noDelay, Bool.toNat_false] at bound
          simp only [LoopHost.delayAfter, isDue]
          exact Nat.le_zero.mp bound
  | case5 loop rest notTurn =>
      cases comesFirst

end Fresh

/-- What holds of a world with some delay, however the loop and its callers take turns. -/
structure KeptWithDelay
    (host : LoopHost World Work Call)
    (property : Nat → World → Prop) :
    Prop where
  mono :
    ∀ {delay world},
      property delay world → property (delay + 1) world
  call :
    ∀ {delay world} each,
      property delay world → property delay (host.call each world)
  /-- A millisecond with nothing to be done delays nothing. -/
  idles :
    ∀ {delay world},
      host.isDue (host.withNow world (host.now world + 1)) = false →
        property delay world →
          property delay (host.withNow world (host.now world + 1))
  /-- A millisecond with something to be done adds to the delay. -/
  waits :
    ∀ {delay world},
      property delay world →
        property (delay + 1) (host.withNow world (host.now world + 1))
  /-- A firing takes the delay of its millisecond away. -/
  fires :
    ∀ {delay world firing rest},
      host.isStopped world = false →
        (host.table world).takeDue? (host.now world) = some (firing, rest) →
          property (delay + 1) world →
            property delay (host.run (host.now world) firing (host.withTable world rest))

namespace KeptWithDelay

variable {property : Nat → World → Prop}

theorem beforeFiring
    (kept : KeptWithDelay host property)
    {delay : Delay}
    {world : World}
    (holds : property delay.total world) :
    property ((delay.afterTurn true).total + 1) world := by
  rcases delay.total_eq_or_of_afterTurn_true with same | oneMore
  · exact kept.mono (same ▸ holds)
  · exact oneMore ▸ holds

theorem step
    (kept : KeptWithDelay host property)
    {before : Delay}
    (step : LoopStep Call)
    (holds : property before.total loop.world) :
    property (host.delayAfter loop before step).total (host.step loop step).world := by
  cases step with
  | call each =>
      exact kept.call each holds
  | elapse =>
      simp only [delayAfter, Delay.total_goOn]
      cases isDue : host.isDue (host.step loop .elapse).world with
      | true =>
          exact kept.waits holds
      | false =>
          exact kept.idles isDue holds
  | turn =>
      simp only [delayAfter]
      cases firingIs : host.firing? loop with
      | none =>
          have sameWorld : (host.step loop .turn).world = loop.world :=
            world_turn_of_firing?_eq_none firingIs
          rw [sameWorld, Option.isSome_none, Delay.afterTurn_false]
          exact holds
      | some both =>
          obtain ⟨firing, rest⟩ := both
          obtain ⟨running, taken⟩ := takeDue?_of_firing?_eq_some firingIs
          have fired : host.step loop .turn = host.fire loop firing rest :=
            turn_of_firing?_eq_some firingIs
          rw [fired]
          exact kept.fires running taken (kept.beforeFiring holds)

/-- It holds after all steps with the delay that they have added. -/
theorem follow
    (kept : KeptWithDelay host property)
    {before : Delay}
    (steps : List (LoopStep Call))
    (holds : property before.total loop.world) :
    property (host.delay loop before steps).total (host.follow loop steps).world := by
  induction steps generalizing loop before with
  | nil =>
      exact holds
  | cons step rest inductionHypothesis =>
      exact inductionHypothesis (kept.step step holds)

end KeptWithDelay

section Outrun

/-- In each of some milliseconds a call comes before the loop. -/
def outrun
    (each : Call)
    (milliseconds : Nat) :
    List (LoopStep Call) :=
  (List.replicate milliseconds [.elapse, .call each, .turn]).flatten

/--
If a call re-arms the loop and comes before it in every millisecond, nothing fires: what the call
keeps as the clock goes on is kept.
-/
theorem follow_outrun
    {each : Call}
    {property : World → Prop}
    (kept :
      ∀ world,
        property world →
          let later := host.withNow world (host.now world + 1)
          host.callRearms each later = true ∧ property (host.call each later))
    (milliseconds : Nat)
    (holds : property loop.world) :
    property (host.follow loop (outrun each milliseconds)).world ∧
      host.now (host.follow loop (outrun each milliseconds)).world =
        host.now loop.world + milliseconds := by
  induction milliseconds generalizing loop with
  | zero =>
      exact ⟨holds, rfl⟩
  | succ milliseconds inductionHypothesis =>
      obtain ⟨rearms, stillHolds⟩ := kept loop.world holds
      let called := host.step (host.step loop .elapse) (.call each)
      have isRearmed : called.isRearmed = true := Bool.or_eq_true_iff.mpr (.inr rearms)
      have nothingFires : host.firing? called = none := by
        simp only [firing?, isRearmed, Bool.or_true, Bool.true_or, if_true]
      have sameWorld : (host.turn called).world = called.world :=
        world_turn_of_firing?_eq_none nothingFires
      have clock : host.now called.world = host.now loop.world + 1 :=
        (host.now_call _ _).trans (host.now_withNow _ _)
      have turnHolds : property (host.turn called).world := sameWorld ▸ stillHolds
      obtain ⟨holdsOn, clockOn⟩ := inductionHypothesis turnHolds
      rw [sameWorld, clock, Nat.add_assoc, Nat.add_comm 1 milliseconds] at clockOn
      exact ⟨holdsOn, clockOn⟩

end Outrun

end LoopHost

end RefreshRate.Timer
