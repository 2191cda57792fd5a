import RefreshRate.Rule.Basic

namespace RefreshRate.Android

/-!
# Commands for the display

A value is applied by commands of two system tools.  Rates in hertz are stored
in four settings.  Indices of display modes are handed to the compositor; to
force an index that may be set already, another one is set in between while the
compositor is told to be flexible.
-/

/-- A system tool. -/
inductive Tool where
  | settings
  | service
  deriving Repr, DecidableEq

namespace Tool

/-- The name of a tool's program. -/
def name : Tool → String
  | .settings => "cmd"
  | .service => "service"

end Tool

/-- A setting that holds a refresh rate, in its group. -/
structure Setting where
  group : String
  key : String
  deriving Repr, DecidableEq

namespace Setting

/-- The settings that hold the refresh rate, in the order in which they are stored. -/
def all : List Setting :=
  [⟨"system", "peak_refresh_rate"⟩, ⟨"system", "min_refresh_rate"⟩,
    ⟨"system", "miui_refresh_rate"⟩, ⟨"secure", "miui_refresh_rate"⟩]

end Setting

/-- One call of a system tool. -/
inductive Command where
  /-- Store a value in a setting. -/
  | store (setting : Setting) (value : String)
  /-- Make a display mode the active one. -/
  | setActiveMode (index : String)
  /-- Tell the compositor whether it may choose the rate freely. -/
  | setFlexibility (flag : String)
  deriving Repr, DecidableEq

namespace Command

/-- The tool that carries out a command. -/
def tool : Command → Tool
  | .store .. => .settings
  | .setActiveMode .. => .service
  | .setFlexibility .. => .service

/-- The arguments of a call of the compositor. -/
def compositorCall (code argument : String) : List String :=
  ["call", "SurfaceFlinger", code, "i32", argument]

/-- The arguments of a command. -/
def arguments : Command → List String
  | .store setting value =>
      ["settings", "put", setting.group, setting.key, value]
  | .setActiveMode index =>
      compositorCall "1035" index
  | .setFlexibility flag =>
      compositorCall "1036" flag

/-- The name of the tool and the arguments. -/
def words (command : Command) : List String :=
  command.tool.name :: command.arguments

/-- The greatest number of bytes in an argument of a process. -/
def argumentLimit : Nat :=
  131071

/--
Whether a process can be started with the arguments: none holds a null
character or is too long.
-/
def isStartable (command : Command) : Bool :=
  command.arguments.all fun argument =>
    !argument.toList.contains '\x00' && argument.utf8ByteSize ≤ argumentLimit

/-- The commands that set a rate in hertz. -/
def literal (value : String) : List Command :=
  Setting.all.map fun setting => .store setting value

/-- The commands that set the index of a display mode. -/
def indexed
    (value : String)
    (forced : Bool) :
    List Command :=
  .setActiveMode value ::
    if forced then
      [.setFlexibility "1", .setActiveMode "-1", .setFlexibility "0", .setActiveMode value]
    else
      []

/-- The commands that apply a value in a mode. -/
def applying
    (mode : SwitchMode)
    (value : String)
    (forced : Bool) :
    List Command :=
  match mode with
  | .literal => literal value
  | .indexed => indexed value forced

end Command

end RefreshRate.Android
