import RefreshRate.Proofs.Controller.Handles
import RefreshRate.Proofs.Executor.Handles
import RefreshRate.Proofs.Timer.Handles

namespace RefreshRate

/-!
# Handles stay valid

A bench of timers and a bench of works keep their handles in every course, and what really
happens on them is such a course.  The controller lives on both, so it never meets a handle
that is unknown.
-/

/--
Whoever acts in whatever order, a new slot has the number of slots before as its handle, and
an action fails just if its handle is not below the number of slots, with an error that tells
both.  An action that fails changes nothing at all, and a handle that was once known is known
for ever.  This is so of timers and of works, in every course of actions and turns; what is
done to them from outside and by their works is such a course, with all of its answers.  And
a controller that was created with its slots never meets an unknown handle, though others add
slots beside it and it is dropped at any time.
-/
theorem handles_stay_valid :
    Timer.Bench.slotHolder.KeepsHandles ∧
      (∀ (bench : Timer.Bench) (operations : List Timer.Operation),
        Timer.Bench.slotHolder.Course bench (bench.answers operations)
          (bench.operateAll operations)) ∧
      Executor.Bench.slotHolder.KeepsHandles ∧
      (∀ (bench : Executor.Bench) (operations : List Executor.Operation),
        Executor.Bench.slotHolder.Course bench (bench.answers operations)
          (bench.operateAll operations)) ∧
      ∀ (config : Config) (incidents : List Controller.Incident),
        ((Controller.World.create config).undergoAll incidents).faults = [] := by
  refine
    ⟨SlotHolder.keepsHandles _, Timer.Bench.course_operateAll, SlotHolder.keepsHandles _,
      Executor.Bench.course_operateAll, ?_⟩
  intro config incidents
  exact (Controller.World.knowsHandles_undergoAll config incidents).noFaults

/-- A work adds a slot, and then it uses a handle that is still unknown, once too often. -/
def overreaching : List Timer.Operation :=
  [.perform (.create "first"),
    .perform (.set 0 1 "work" [.create "second", .trySet 2 5 "late" [], .clear 2, .create "never"]),
    .advance 1]

/-- What the work did before it failed stays done, and the next slot gets the next handle. -/
theorem handles_stay_valid_behind_failure :
    let answers := ({} : Timer.Bench).answers overreaching
    let later := ({} : Timer.Bench).operateAll overreaching
    answers.map Prod.snd =
        [.handle 0, .done, .handle 1, .refused ⟨.scheduler, 2, 2⟩,
          .panicked "scheduler handle not found, handle = 2, slots = 2"] ∧
      (later.perform (.create "third")).1 = .handle 2 ∧
        (later.perform (.tryClear 2)).2 = later := by
  obtain ⟨keepsHandles, isCourse, -⟩ := handles_stay_valid
  intro answers later
  have course : Timer.Bench.slotHolder.Course {} answers later := isCourse {} overreaching
  have count : later.table.size = 2 := keepsHandles.slots_count {} answers later course
  refine ⟨rfl, congrArg Timer.Reply.handle count, ?_⟩
  exact
    keepsHandles.unknown_changes_nothing {} answers later course (.tryClear 2) 2 rfl
      (Nat.le_refl 2)

end RefreshRate
