import RefreshRate.Text.Decimal

namespace RefreshRate

/-!
# Slot handles

The scheduler and the executor each own a table of slots.  Slots are only ever
added, so the handle of a slot is its index, and a handle is unknown exactly
when it is not below the number of slots.
-/

/-- The component that owns a table of slots. -/
inductive SlotOwner where
  | scheduler
  | executor
  deriving Repr, DecidableEq

namespace SlotOwner

/-- The name of a component. -/
def name : SlotOwner → String
  | .scheduler => "scheduler"
  | .executor => "executor"

end SlotOwner

/-- A handle that the table of a component does not know. -/
structure HandleError where
  owner : SlotOwner
  handle : Nat
  slots : Nat
  deriving Repr, DecidableEq

namespace HandleError

/-- The short name of the kind of error. -/
def label (error : HandleError) : String :=
  error.owner.name ++ "_handle_not_found"

/-- The error as a sentence. -/
def message (error : HandleError) : String :=
  error.owner.name ++ " handle not found, handle = " ++ Text.Decimal.text error.handle ++
    ", slots = " ++ Text.Decimal.text error.slots

end HandleError

end RefreshRate
