import RefreshRate.Timer.Table

namespace RefreshRate.Timer

/-!
# Delivery of alarms

A host is a world with a timer table in it that knows how to do the work of an
alarm.  As time goes by the host sleeps until the earliest deadline, but at
least until the next moment, takes one alarm that is due, does its work, and
looks at the table again.  At most one alarm fires in each millisecond.  So it goes
where nobody gets ahead of the loop that delivers the alarms.
-/

/-- A world that holds a timer table and does the work of alarms. -/
structure Host (World Work : Type) where
  /-- The table in the world. -/
  table : World → Table Work
  /-- Replace the table in the world. -/
  withTable : World → Table Work → World
  /-- Do the work of a firing at a given time. -/
  run : Nat → Firing Work → World → World

namespace Host

variable {World Work : Type}

/-- Wake up at a given time: do the work of one alarm that is due, if there is one. -/
def wakeUp
    (host : Host World Work)
    (now : Nat)
    (world : World) :
    World :=
  match (host.table world).takeDue? now with
  | none =>
      world
  | some (firing, table) =>
      host.run now firing (host.withTable world table)

/-- Let time pass from `now` to `target`, sleeping from one wake-up to the next. -/
def advance
    (host : Host World Work)
    (target now : Nat)
    (world : World) :
    World :=
  match _found : (host.table world).nextWakeUp? now with
  | none =>
      world
  | some next =>
      if next ≤ target then
        host.advance target next (host.wakeUp next world)
      else
        world
termination_by target - now
decreasing_by
  have := Table.lt_of_nextWakeUp?_eq_some _found
  omega

/-- Let a number of milliseconds pass, waking up in every one of them. -/
def tick
    (host : Host World Work) :
    Nat → Nat → World → World
  | 0, _, world =>
      world
  | remaining + 1, now, world =>
      host.tick remaining (now + 1) (host.wakeUp (now + 1) world)

end Host

end RefreshRate.Timer
