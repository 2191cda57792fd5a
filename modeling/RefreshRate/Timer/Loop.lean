import RefreshRate.Timer.Host

namespace RefreshRate.Timer

/-!
# The loop that delivers alarms

When the loop looks at the table it settles on its next wake-up, and then it waits for that
time.  Whoever replaces an alarm re-arms the loop: a permit is left, and a loop that finds
it takes it, looks again and waits anew, even if its time has come meanwhile.  So a caller
who gets ahead of the loop puts off what is due to the next millisecond.
-/

/-- A host with a clock that is called from outside while a loop delivers its alarms. -/
structure LoopHost (World Work Call : Type) extends Host World Work where
  now : World → Nat
  withNow : World → Nat → World
  /-- Whether the loop was told to end. -/
  isStopped : World → Bool
  /-- Answer a call from outside. -/
  call : Call → World → World
  /-- Whether a call re-arms the loop. -/
  callRearms : Call → World → Bool
  /-- Whether the work of a firing re-arms the loop. -/
  workRearms : Nat → Firing Work → World → Bool
  table_withNow : ∀ world time, table (withNow world time) = table world
  now_withNow : ∀ world time, now (withNow world time) = time
  isStopped_withNow : ∀ world time, isStopped (withNow world time) = isStopped world
  now_call : ∀ each world, now (call each world) = now world
  /-- The end is for good. -/
  isStopped_call :
    ∀ each world, isStopped world = true → isStopped (call each world) = true
  /-- A call that does not re-arm the loop leaves the next wake-up as it is. -/
  earliest?_call :
    ∀ each world,
      callRearms each world = false →
        (table (call each world)).earliest? = (table world).earliest?

/-- The loop in its world. -/
structure Loop (World : Type) where
  world : World
  /-- Whether a permit is left for the loop. -/
  isRearmed : Bool := false
  /-- The time for which the loop waits. -/
  wakeUp? : Option Nat := none
  deriving Repr, DecidableEq

/-- What happens next to a loop and to its world. -/
inductive LoopStep (Call : Type) where
  /-- Someone else calls. -/
  | call (call : Call)
  /-- A millisecond passes. -/
  | elapse
  /-- The loop takes its turn. -/
  | turn
  deriving Repr, DecidableEq

namespace LoopHost

variable
  {World Work Call : Type}
  (host : LoopHost World Work Call)

/-- The loop looks at the table and settles on its next wake-up. -/
def look (loop : Loop World) : Loop World :=
  { loop with wakeUp? := (host.table loop.world).nextWakeUp? (host.now loop.world) }

/-- The loop begins. -/
def begin (world : World) : Loop World :=
  host.look { world }

/-- Whether the time has come for which the loop waits. -/
def isOver (loop : Loop World) : Bool :=
  loop.wakeUp?.any (· ≤ host.now loop.world)

/-- What the loop fires when it takes its turn. -/
def firing?
    (loop : Loop World) :
    Option (Firing Work × Table Work) :=
  if host.isStopped loop.world || loop.isRearmed || !host.isOver loop then
    none
  else
    (host.table loop.world).takeDue? (host.now loop.world)

/-- The loop does the work of a firing, and looks at the table again. -/
def fire
    (loop : Loop World)
    (firing : Firing Work)
    (rest : Table Work) :
    Loop World :=
  let now := host.now loop.world
  let begun := host.withTable loop.world rest
  host.look
    { loop with
      world := host.run now firing begun
      isRearmed := host.workRearms now firing begun }

/-- The loop takes its turn: the end comes first, then a permit, and then its time. -/
def turn (loop : Loop World) : Loop World :=
  if host.isStopped loop.world then
    loop
  else if loop.isRearmed then
    host.look { loop with isRearmed := false }
  else
    match host.firing? loop with
    | some (firing, rest) =>
        host.fire loop firing rest
    | none =>
        if host.isOver loop then host.look loop else loop

/-- What a step does to the loop and its world. -/
def step (loop : Loop World) : LoopStep Call → Loop World
  | .call call =>
      { loop with
        world := host.call call loop.world
        isRearmed := loop.isRearmed || host.callRearms call loop.world }
  | .elapse =>
      { loop with world := host.withNow loop.world (host.now loop.world + 1) }
  | .turn =>
      host.turn loop

/-- Take steps one after the other. -/
def follow
    (loop : Loop World)
    (steps : List (LoopStep Call)) :
    Loop World :=
  steps.foldl host.step loop

end LoopHost

end RefreshRate.Timer
