import RefreshRate.Android.Command

namespace RefreshRate.Android

/-!
# What commands do to a device
-/

/-- The parts of a device on which the commands act; absent parts are untouched. -/
structure Device where
  /-- The stored settings, the latest first. -/
  settings : List (Setting × String) := []
  activeMode? : Option String := none
  flexibility? : Option String := none
  deriving Repr, DecidableEq

namespace Device

/-- The value of a setting. -/
def setting?
    (device : Device)
    (setting : Setting) :
    Option String :=
  device.settings.lookup setting

/-- The device after a command has taken effect. -/
def execute (device : Device) : Command → Device
  | .store setting value =>
      { device with settings := (setting, value) :: device.settings }
  | .setActiveMode index =>
      { device with activeMode? := some index }
  | .setFlexibility flag =>
      { device with flexibility? := some flag }

/-- The device after commands have taken effect in order. -/
def executeAll
    (device : Device)
    (commands : List Command) :
    Device :=
  commands.foldl execute device

end Device

end RefreshRate.Android
