import RefreshRate.Proofs.Timer.Due
import RefreshRate.Timer.Host

namespace RefreshRate.Timer.Host

/-!
# Sleeping is as good as waking up every millisecond

Between now and the next time to wake up nothing is due, so a host that sleeps
until then misses nothing.
-/

variable
  {World Work : Type}
  (host : Host World Work)

theorem wakeUp_of_takeDue?_eq_none
    {world : World}
    {now : Nat}
    (nothingDue : (host.table world).takeDue? now = none) :
    host.wakeUp now world = world := by
  simp only [wakeUp, nothingDue]

theorem wakeUp_of_takeDue?_eq_some
    {world : World}
    {now : Nat}
    {firing : Firing Work}
    {rest : Table Work}
    (taken : (host.table world).takeDue? now = some (firing, rest)) :
    host.wakeUp now world = host.run now firing (host.withTable world rest) := by
  simp only [wakeUp, taken]

theorem tick_add
    (first later now : Nat)
    (world : World) :
    host.tick (first + later) now world =
      host.tick later (now + first) (host.tick first now world) := by
  induction first generalizing now world with
  | zero =>
      rw [Nat.zero_add]
      rfl
  | succ first inductionHypothesis =>
      rw [Nat.succ_add_eq_add_succ, Nat.add_succ]
      simp only [tick]
      rw [inductionHypothesis]
      congr 1
      omega

/-- As long as nothing is due, nothing happens. -/
theorem tick_of_nothingDue
    {remaining now : Nat}
    {world : World}
    (nothingDue :
      ∀ time, now < time → time ≤ now + remaining →
        (host.table world).takeDue? time = none) :
    host.tick remaining now world = world := by
  induction remaining generalizing now with
  | zero =>
      rfl
  | succ remaining inductionHypothesis =>
      have notNow := nothingDue (now + 1) (Nat.lt_succ_self now) (by omega)
      simp only [tick]
      rw [wakeUp_of_takeDue?_eq_none host notNow]
      exact inductionHypothesis fun time later inTime => nothingDue time (by omega) (by omega)

/-- To sleep from one wake-up to the next is to wake up in every millisecond. -/
theorem advance_eq_tick
    (target now : Nat)
    (world : World) :
    host.advance target now world = host.tick (target - now) now world := by
  fun_induction advance host target now world with
  | case1 now world asleep =>
      refine (tick_of_nothingDue host fun time later inTime => ?_).symm
      refine Table.takeDue?_eq_none_of_lt_nextWakeUp later fun next wakesUp => ?_
      cases asleep.symm.trans wakesUp
  | case2 now world next found inTime inductionHypothesis =>
      have later : now < next := Table.lt_of_nextWakeUp?_eq_some found
      have slept : host.tick (next - now - 1) now world = world := by
        refine tick_of_nothingDue host fun time afterNow beforeNext => ?_
        refine Table.takeDue?_eq_none_of_lt_nextWakeUp afterNow fun other wakesUp => ?_
        cases found.symm.trans wakesUp
        omega
      have split : target - now = (next - now - 1) + (1 + (target - next)) := by
        omega
      have wakesAt : now + (next - now - 1) + 1 = next := by
        omega
      rw [inductionHypothesis, split, tick_add, slept, tick_add]
      simp only [tick, wakesAt]
  | case3 now world next found tooLate =>
      refine (tick_of_nothingDue host fun time later inTime => ?_).symm
      refine Table.takeDue?_eq_none_of_lt_nextWakeUp later fun other wakesUp => ?_
      cases found.symm.trans wakesUp
      omega

/-- A host with nothing to wake up for stays as it is. -/
theorem advance_of_asleep
    {target now : Nat}
    {world : World}
    (asleep : (host.table world).nextWakeUp? now = none) :
    host.advance target now world = world := by
  unfold advance
  split
  · rfl
  · rename_i next found
    cases asleep.symm.trans found

end RefreshRate.Timer.Host
