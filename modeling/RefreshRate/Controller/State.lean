import RefreshRate.Config.Basic
import RefreshRate.Gate
import RefreshRate.Signal.Basic

namespace RefreshRate.Controller

/-!
# The state of the controller

The controller keeps what it has learned from signals and decides which rule is
in effect.  Reacting to a signal or to the end of a slack time gives a new state
and commands: to request a switch, to arm a debounce, or to cancel one.
-/

/-- A condition that takes precedence over the app on top. -/
inductive Override where
  | gesture
  | offscreen
  deriving Repr, DecidableEq

namespace Override

/-- The key of the rule that an override puts into effect. -/
def key : Override → String
  | .gesture => Rule.universalKey
  | .offscreen => Rule.offscreenKey

end Override

/-- A reaction that waits for the end of a slack time. -/
inductive Debounce where
  /-- The screen becomes idle some time after the last release. -/
  | enterIdle
  /-- The override of a gesture is lifted some time after its end. -/
  | exitGesture
  /-- The override of being offscreen is lifted some time after the return. -/
  | exitOffscreen
  deriving Repr, DecidableEq

namespace Debounce

/-- All debounces in the order of their timer slots. -/
def all : List Debounce :=
  [.enterIdle, .exitGesture, .exitOffscreen]

/-- The handle of the timer slot of a debounce. -/
def handle : Debounce → Nat
  | .enterIdle => 0
  | .exitGesture => 1
  | .exitOffscreen => 2

/-- The name of the timer slot of a debounce. -/
def slotName : Debounce → String
  | .enterIdle => "dfps.input"
  | .exitGesture => "dfps.gesture"
  | .exitOffscreen => "dfps.wakeup"

/-- The slack time of a debounce. -/
def slack
    (tunables : Tunables) :
    Debounce → Nat
  | .enterIdle => tunables.touchSlack
  | .exitGesture => tunables.gestureSlack
  | .exitOffscreen => tunables.gestureSlack

end Debounce

/-- What a reaction asks for. -/
inductive Command where
  | requestSwitch
  | arm (debounce : Debounce)
  | cancel (debounce : Debounce)
  deriving Repr, DecidableEq

/-- What the controller knows. -/
structure State where
  touch : Bool := false
  button : Bool := false
  isActive : Bool := false
  app : String := ""
  override? : Option Override := none
  isOffscreen : Bool := false
  gate : Gate := {}
  deriving Repr, DecidableEq

/-- A new state and what is to be done. -/
abbrev Reaction :=
  State × List Command

namespace State

/-- The rule in effect. -/
def rule
    (state : State)
    (rules : RuleTable) :
    Rule :=
  match state.override? with
  | some override =>
      rules.lookup override.key
  | none =>
      rules.lookup state.app

/-- The value that the display should have. -/
def target
    (state : State)
    (rules : RuleTable) :
    Int :=
  (state.rule rules).pick state.isActive

/-- Let the next switch pass the gate in any case. -/
def raiseForce (state : State) : State :=
  { state with gate := state.gate.raiseForce }

/-- Offer the target to the gate. -/
def switch
    (state : State)
    (rules : RuleTable) :
    Option Admission × State :=
  let (admission?, gate) := state.gate.offer (state.target rules)
  (admission?, { state with gate })

/-- React to a press or a release, which the state already reflects. -/
def onInput (state : State) : Reaction :=
  if state.touch || state.button then
    ({ state with isActive := true }, [.requestSwitch, .cancel .enterIdle])
  else
    (state, [.arm .enterIdle])

/-- React to what the fingers on the screen are doing. -/
def onInputState
    (state : State)
    (input : InputState) :
    Reaction :=
  if input.inGesture then
    ({ state with override? := some .gesture }, [.requestSwitch, .cancel .exitGesture])
  else
    (state, [.arm .exitGesture])

/-- React to the app on top. -/
def onTopApp
    (state : State)
    (app : String) :
    Reaction :=
  if app = state.app then
    (state, [])
  else
    ({ state with app }.raiseForce, [.requestSwitch])

/-- React to leaving the screen or returning to it. -/
def onOffscreen
    (state : State)
    (isOff : Bool) :
    Reaction :=
  if isOff = state.isOffscreen then
    (state, [])
  else if isOff then
    ({ state with isOffscreen := true, override? := some .offscreen }.raiseForce,
      [.requestSwitch, .cancel .exitOffscreen])
  else
    ({ state with isOffscreen := false }, [.arm .exitOffscreen])

/-- React to a signal. -/
def receive (state : State) : Signal → Reaction
  | .touch pressed =>
      { state with touch := pressed }.onInput
  | .button pressed =>
      { state with button := pressed }.onInput
  | .inputState input =>
      state.onInputState input
  | .topApp app =>
      state.onTopApp app
  | .offscreen isOff =>
      state.onOffscreen isOff
  | .cgroup _ _ =>
      (state, [])

/-- React to the end of the slack time of a debounce. -/
def expire (state : State) : Debounce → Reaction
  | .enterIdle =>
      ({ state with isActive := false }, [.requestSwitch])
  | .exitGesture =>
      if state.override? = some .gesture then
        ({ state with override? := none }, [.requestSwitch])
      else
        (state, [])
  | .exitOffscreen =>
      if state.override? = some .offscreen then
        ({ state with override? := none }.raiseForce, [.requestSwitch])
      else
        (state, [])

end State

end RefreshRate.Controller
