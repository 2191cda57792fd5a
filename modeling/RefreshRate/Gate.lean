namespace RefreshRate

/-!
# The switch gate

The gate decides whether a resolved value reaches the display.  It remembers the
value that was admitted last and whether the next value must pass even if it is
the same.
-/

/-- The value admitted last and the pending force. -/
structure Gate where
  lastApplied : Option Int := none
  isForced : Bool := false
  deriving Repr, DecidableEq

/-- A value that passes the gate, and whether it was forced through. -/
structure Admission where
  value : Int
  forced : Bool
  deriving Repr, DecidableEq

namespace Gate

/-- Let the next value pass in any case. -/
def raiseForce (gate : Gate) : Gate :=
  { gate with isForced := true }

/-- Whether the gate lets a value pass. -/
def passes
    (gate : Gate)
    (value : Int) :
    Bool :=
  gate.isForced || gate.lastApplied != some value

/-- Offer a value to the gate; the force is used up whether the value passes or not. -/
def offer
    (gate : Gate)
    (value : Int) :
    Option Admission × Gate :=
  if gate.passes value then
    (some ⟨value, gate.isForced⟩, ⟨some value, false⟩)
  else
    (none, { gate with isForced := false })

end Gate

end RefreshRate
