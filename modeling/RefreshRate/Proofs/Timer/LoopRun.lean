import Mathlib.Logic.Function.Iterate
import RefreshRate.Proofs.Timer.LoopOrder

namespace RefreshRate.Timer.LoopHost

/-!
# A loop that comes first wakes its host in every millisecond

If callers let the loop take its turn after each call, and the clock waits for the loop, then
a millisecond is a wake-up of the host and nothing else.  That is the order of callers and
loop in which a host may be said to sleep from one deadline to the next.
-/

variable
  {World Work Call : Type}
  {host : LoopHost World Work Call}
  {loop : Loop World}

/-- A millisecond passes, and the host wakes up unless it was told to end. -/
def pace
    (host : LoopHost World Work Call)
    (world : World) :
    World :=
  let later := host.withNow world (host.now world + 1)
  if host.isStopped world then later else host.wakeUp (host.now world + 1) later

/-- Steps in which the loop comes first lead it to a world, in which it is at rest again. -/
structure Leads
    (host : LoopHost World Work Call)
    (loop : Loop World)
    (steps : List (LoopStep Call))
    (world : World) :
    Prop where
  comesFirst : host.comesFirst loop steps = true
  world_eq : (host.follow loop steps).world = world
  isFresh : host.IsFresh (host.follow loop steps)
  isAtRest : host.isAtRest (host.follow loop steps) = true

/-- Whether the loop has been told to end, or its time has not come. -/
def isCalm
    (host : LoopHost World Work Call)
    (loop : Loop World) :
    Bool :=
  host.isStopped loop.world || !host.isOver loop

theorem isCalm_of_isAtRest
    (isAtRest : host.isAtRest loop = true) :
    host.isCalm loop = true := by
  simp only [LoopHost.isAtRest, Bool.or_eq_true, Bool.and_eq_true] at isAtRest
  simp only [isCalm, Bool.or_eq_true]
  exact isAtRest.imp_right And.right

theorem isCalm_look (loop : Loop World) : host.isCalm (host.look loop) = true := by
  simp only [isCalm, isOver_look, Bool.not_false, Bool.or_true]

theorem isAtRest_look
    (notRearmed : loop.isRearmed = false) :
    host.isAtRest (host.look loop) = true := by
  have stillNot : (host.look loop).isRearmed = false := notRearmed
  simp only [isAtRest, stillNot, isOver_look, Bool.not_false, Bool.and_true, Bool.or_true]

/-- A turn of a calm loop only brings it to rest. -/
theorem turn_of_isCalm
    (isCalm : host.isCalm loop = true) :
    (host.turn loop).world = loop.world ∧ host.isAtRest (host.turn loop) = true := by
  simp only [LoopHost.isCalm, Bool.or_eq_true, Bool.not_eq_true'] at isCalm
  have turned := turned_turn host loop
  generalize host.turn loop = next at turned
  cases turned with
  | stopped isStopped =>
      exact ⟨rfl, by simp [isAtRest, isStopped]⟩
  | rearmed running isRearmed =>
      exact ⟨rfl, isAtRest_look rfl⟩
  | waits running notRearmed notOver =>
      exact ⟨rfl, by simp [isAtRest, notRearmed, notOver]⟩
  | looksAgain running notRearmed isOver nothingDue =>
      exact ⟨rfl, isAtRest_look notRearmed⟩
  | fires firing rest running firingIs taken =>
      rcases isCalm with isStopped | notOver
      · cases running.symm.trans isStopped
      · simp [firing?, notOver] at firingIs

/-- After the clock has gone on, the first turn of the loop is the wake-up of the host. -/
theorem turn_elapse
    (isFresh : host.IsFresh loop)
    (isAtRest : host.isAtRest loop = true) :
    let woken := host.turn (host.step loop .elapse)
    woken.world = host.pace loop.world ∧ host.isCalm woken = true := by
  intro woken
  have worldIs :
      (host.step loop .elapse).world = host.withNow loop.world (host.now loop.world + 1) :=
    rfl
  have sameNow : host.now (host.step loop .elapse).world = host.now loop.world + 1 :=
    host.now_withNow _ _
  have sameStopped : host.isStopped (host.step loop .elapse).world = host.isStopped loop.world :=
    host.isStopped_withNow _ _
  have turned := turned_turn host (host.step loop .elapse)
  have wokenIs : host.turn (host.step loop .elapse) = woken := rfl
  rw [wokenIs] at turned
  clear_value woken
  have idles
      (running : host.isStopped (host.step loop .elapse).world = false)
      (nothingDue :
        (host.table (host.step loop .elapse).world).takeDue?
            (host.now (host.step loop .elapse).world) =
          none) :
      (host.step loop .elapse).world = host.pace loop.world := by
    rw [sameStopped] at running
    rw [sameNow] at nothingDue
    simp only [pace, running, Bool.false_eq_true, if_false, Host.wakeUp]
    rw [← worldIs, nothingDue]
  cases turned with
  | stopped isStopped =>
      refine ⟨?_, by simp [isCalm, isStopped]⟩
      rw [sameStopped] at isStopped
      simp only [pace, isStopped, if_true]
      exact worldIs
  | rearmed running isRearmed =>
      have wasRearmed : loop.isRearmed = true := isRearmed
      rw [sameStopped] at running
      simp [LoopHost.isAtRest, running, wasRearmed] at isAtRest
  | waits running notRearmed notOver =>
      refine ⟨idles running ?_, by simp [isCalm, notOver]⟩
      by_contra someDue
      have isDue : host.isDue (host.step loop .elapse).world = true := by
        simp [LoopHost.isDue, running, Option.isSome_iff_ne_none, someDue]
      have fires := isFresh.firing?_isSome_of_isDue isAtRest isDue
      simp [firing?, notOver] at fires
  | looksAgain running notRearmed isOver nothingDue =>
      exact ⟨idles running nothingDue, isCalm_look _⟩
  | fires firing rest running firingIs taken =>
      refine ⟨?_, isCalm_look _⟩
      rw [sameStopped] at running
      simp only [pace, running, Bool.false_eq_true, if_false, Host.wakeUp]
      rw [← worldIs, ← sameNow, taken]
      rfl

/-- If the loop comes first in some steps and then in more, it does so in all of them. -/
theorem comesFirst_append
    {steps more : List (LoopStep Call)}
    (comesFirst : host.comesFirst loop steps = true)
    (moreComesFirst : host.comesFirst (host.follow loop steps) more = true) :
    host.comesFirst loop (steps ++ more) = true := by
  fun_induction LoopHost.comesFirst host loop steps with
  | case1 loop =>
      exact moreComesFirst
  | case2 loop each rest inductionHypothesis =>
      exact inductionHypothesis comesFirst moreComesFirst
  | case3 loop rest inductionHypothesis =>
      exact inductionHypothesis comesFirst moreComesFirst
  | case4 loop rest inductionHypothesis =>
      obtain ⟨isAtRest, restComesFirst⟩ := Bool.and_eq_true_iff.mp comesFirst
      exact Bool.and_eq_true_iff.mpr ⟨isAtRest, inductionHypothesis restComesFirst moreComesFirst⟩
  | case5 loop rest notTurn =>
      cases comesFirst

namespace Leads

variable
  {steps more : List (LoopStep Call)}
  {world next : World}

theorem nil
    (isFresh : host.IsFresh loop)
    (isAtRest : host.isAtRest loop = true) :
    Leads host loop [] loop.world :=
  ⟨rfl, rfl, isFresh, isAtRest⟩

/-- A loop at rest begins. -/
theorem begin (world : World) : Leads host (host.begin world) [] world :=
  .nil (isFresh_look _) (isAtRest_look rfl)

theorem append
    (leads : Leads host loop steps world)
    (leadsOn : Leads host (host.follow loop steps) more next) :
    Leads host loop (steps ++ more) next := by
  refine ⟨comesFirst_append leads.comesFirst leadsOn.comesFirst, ?_, ?_, ?_⟩
  · rw [follow_append]
    exact leadsOn.world_eq
  · rw [follow_append]
    exact leadsOn.isFresh
  · rw [follow_append]
    exact leadsOn.isAtRest

/-- After a call the loop takes its turn. -/
theorem call
    (leads : Leads host loop steps world)
    (each : Call) :
    Leads host loop (steps ++ [.call each, .turn]) (host.call each world) := by
  refine leads.append ?_
  have isFresh := leads.isFresh
  have wasCalm := isCalm_of_isAtRest leads.isAtRest
  rw [← leads.world_eq]
  generalize host.follow loop steps = before at isFresh wasCalm
  have isCalm : host.isCalm (host.step before (.call each)) = true := by
    simp only [LoopHost.isCalm, Bool.or_eq_true, Bool.not_eq_true'] at wasCalm ⊢
    refine wasCalm.imp (host.isStopped_call each before.world) fun notOver => ?_
    simp only [isOver, step, host.now_call] at notOver ⊢
    exact notOver
  obtain ⟨sameWorld, isAtRest⟩ := turn_of_isCalm isCalm
  exact ⟨rfl, sameWorld, (isFresh.step (.call each)).step .turn, isAtRest⟩

/-- When the clock goes on, the loop takes its turn, and once more if its work re-armed it. -/
theorem pace (leads : Leads host loop steps world) :
    Leads host loop (steps ++ [.elapse, .turn, .turn]) (host.pace world) := by
  refine leads.append ?_
  have isFresh := leads.isFresh
  have wasAtRest := leads.isAtRest
  rw [← leads.world_eq]
  generalize host.follow loop steps = before at isFresh wasAtRest
  obtain ⟨wakesUp, isCalm⟩ := turn_elapse isFresh wasAtRest
  obtain ⟨sameWorld, isAtRest⟩ := turn_of_isCalm isCalm
  refine ⟨?_, sameWorld.trans wakesUp, ?_, isAtRest⟩
  · simp only [LoopHost.comesFirst, wasAtRest, Bool.and_true]
  · exact ((isFresh.step .elapse).step .turn).step .turn

/-- Some milliseconds pass. -/
theorem paces
    (leads : Leads host loop steps world)
    (milliseconds : Nat) :
    Leads host loop
      (steps ++ (List.replicate milliseconds [.elapse, .turn, .turn]).flatten)
      (host.pace^[milliseconds] world) := by
  induction milliseconds generalizing steps world with
  | zero =>
      simpa using leads
  | succ milliseconds inductionHypothesis =>
      have all := inductionHypothesis leads.pace
      rwa [List.append_assoc] at all

end Leads

end RefreshRate.Timer.LoopHost
