import RefreshRate.Log
import RefreshRate.Rule.Table

namespace RefreshRate

/-!
# Configuration

A configuration is a rule table together with the tunables: the mode of
switching and two slack times.  What a reader of configurations notices is a
`ConfigNotice`.
-/

/-- The knobs of the controller; times are in milliseconds. -/
structure Tunables where
  mode : SwitchMode := .literal
  /-- How long the screen stays active after the last release. -/
  touchSlack : Nat := 4000
  /-- How long a gesture or an offscreen override outlasts its cause. -/
  gestureSlack : Nat := 4000
  deriving Repr, DecidableEq

namespace Tunables

/-- The least slack time. -/
def minSlack : Nat :=
  100

/-- The slack time that a written value stands for. -/
def slack (value : Int) : Nat :=
  max minSlack value.toNat

/-- Set the tunable of a given name; other names are unknown. -/
def set?
    (tunables : Tunables)
    (name : String)
    (value : Int) :
    Option Tunables :=
  if name = "useSfBackdoor" then
    some { tunables with mode := .ofBackdoor (value != 0) }
  else if name = "touchSlackMs" then
    some { tunables with touchSlack := slack value }
  else if name = "gestureSlackMs" then
    some { tunables with gestureSlack := slack value }
  else
    none

end Tunables

/-- Rules and tunables. -/
structure Config where
  rules : RuleTable
  tunables : Tunables
  deriving DecidableEq

/-- Why a line of a configuration is skipped. -/
inductive SyntaxError where
  | brokenTunable
  | tunableValue (name value : String)
  | brokenRule
  deriving Repr, DecidableEq

namespace SyntaxError

/-- The short name of the kind of error. -/
def label : SyntaxError → String
  | .brokenTunable => "syntax_broken_tunable"
  | .tunableValue .. => "syntax_tunable_value"
  | .brokenRule => "syntax_broken_rule"

/-- The error as a phrase. -/
def message : SyntaxError → String
  | .brokenTunable =>
      "broken tunable line"
  | .tunableValue name value =>
      "tunable '" ++ name ++ "' has non-integer value '" ++ value ++ "'"
  | .brokenRule =>
      "broken rule line"

end SyntaxError

/-- What is noticed while a configuration is read. -/
inductive ConfigNotice where
  | tunableSet (name : String) (value : Int)
  | unknownTunable (line : Nat) (name : String)
  | ruleLoaded (package : String) (rule : Rule)
  | duplicateRule (line : Nat) (package : String)
  | ruleRedefined (line : Nat) (key : String)
  | lineSkipped (line : Nat) (text : String) (reason : SyntaxError)
  | modeChosen (mode : SwitchMode)
  deriving Repr, DecidableEq

namespace ConfigNotice

/-- How the display is switched in a mode. -/
def meansText : SwitchMode → String
  | .literal => "use peak_refresh_rate to switch refresh rate"
  | .indexed => "use surfaceflinger backdoor to switch refresh rate"

/-- The notice as a log record. -/
def record : ConfigNotice → LogRecord
  | .tunableSet name value =>
      { level := .debug
        message := "set '" ++ name ++ "'=" ++ Text.Decimal.text value }
  | .unknownTunable line name =>
      { level := .warning
        message := "unknown tunable '" ++ name ++ "' in the config file"
        line := some line }
  | .ruleLoaded package rule =>
      { level := .debug
        message := "load '" ++ package ++ "', dfps=" ++ rule.pairText }
  | .duplicateRule line package =>
      { level := .warning
        message := "duplicate rule for '" ++ package ++ "' ignored"
        line := some line }
  | .ruleRedefined line key =>
      { level := .warning
        message := "rule '" ++ key ++ "' redefined"
        line := some line }
  | .lineSkipped line text reason =>
      { level := .warning
        message := "skipped broken line '" ++ text ++ "': " ++ reason.message
        line := some line
        reason := some reason.label }
  | .modeChosen mode =>
      { level := .info
        message := meansText mode }

end ConfigNotice

end RefreshRate
