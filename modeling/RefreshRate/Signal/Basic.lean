import RefreshRate.Signal.Topic

namespace RefreshRate

/-!
# Signals

A signal reports one change on the device.  Six kinds of signal belong to six
kinds of topic.
-/

/-- What the fingers on the screen are doing. -/
structure InputState where
  inHold : Bool
  inSwipe : Bool
  inGesture : Bool
  deriving Repr, DecidableEq

/-- A change on the device. -/
inductive Signal where
  | touch (pressed : Bool)
  | button (pressed : Bool)
  | inputState (state : InputState)
  | topApp (package : String)
  | offscreen (isOff : Bool)
  | cgroup (group : String) (tasks : List Int)
  deriving Repr, DecidableEq

namespace Signal

/-- The topic to which a signal belongs. -/
def topic : Signal → Topic
  | .touch _ => .touch
  | .button _ => .button
  | .inputState _ => .inputState
  | .topApp _ => .topApp
  | .offscreen _ => .offscreen
  | .cgroup group _ => .cgroup group

end Signal

end RefreshRate
