import RefreshRate.Text.Decimal

namespace RefreshRate

/-!
# Refresh-rate rules

A rule gives one value for an idle screen and one for an active screen.  The
mode of switching decides what a value means: a rate in hertz, or the index of
a display mode.  Rates start at 20, indices stay below it, and the pair of two
`-1` asks for no change in either mode.
-/

/-- The values to use while the screen is idle and while it is active. -/
structure Rule where
  idle : Int
  active : Int
  deriving Repr, DecidableEq

namespace Rule

/-- The rule that leaves the display as it is. -/
def noOverride : Rule :=
  ⟨-1, -1⟩

/-- The value for the current activity. -/
def pick
    (rule : Rule)
    (isActive : Bool) :
    Int :=
  if isActive then rule.active else rule.idle

/-- The key of the rule for every package without a rule of its own. -/
def universalKey : String :=
  "*"

/-- The key of the rule for a device that is offscreen. -/
def offscreenKey : String :=
  "-"

/-- The two values of a rule, idle first. -/
def pairText (rule : Rule) : String :=
  Text.Decimal.text rule.idle ++ "/" ++ Text.Decimal.text rule.active

end Rule

/-- What the values of rules mean. -/
inductive SwitchMode where
  /-- Values are rates in hertz. -/
  | literal
  /-- Values are indices of display modes. -/
  | indexed
  deriving Repr, DecidableEq

namespace SwitchMode

/-- The least value that counts as a rate in hertz. -/
def minLiteral : Int :=
  20

/-- Indices are used with the compositor's back door, rates without it. -/
def ofBackdoor (useBackdoor : Bool) : SwitchMode :=
  if useBackdoor then .indexed else .literal

/-- The name of a mode. -/
def name : SwitchMode → String
  | .literal => "literal-hz"
  | .indexed => "indexed"

/-- Whether one value has the meaning that a mode gives to it. -/
def fits : SwitchMode → Int → Bool
  | .literal, value =>
      minLiteral ≤ value
  | .indexed, value =>
      value < minLiteral

/-- Whether a rule can be used in a mode. -/
def accepts
    (mode : SwitchMode)
    (rule : Rule) :
    Bool :=
  rule == Rule.noOverride || (mode.fits rule.idle && mode.fits rule.active)

end SwitchMode

end RefreshRate
