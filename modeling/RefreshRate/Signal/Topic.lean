import RefreshRate.Text.Quoted

namespace RefreshRate

/-!
# Topics

A topic says what a signal is about.  Its key is the word that names it in a
signal line; the key of a control group carries the name of the group.
-/

/-- What a signal is about. -/
inductive Topic where
  | touch
  | button
  | inputState
  | topApp
  | offscreen
  | cgroup (group : String)
  deriving Repr, DecidableEq

/-- Why a signal line or a topic key is refused. -/
inductive SignalError where
  | empty
  | unknownTopic (key : String)
  | badPayload (key payload : String)
  deriving Repr, DecidableEq

namespace SignalError

/-- The short name of the kind of error. -/
def label : SignalError → String
  | .empty => "signal_empty"
  | .unknownTopic _ => "signal_unknown_topic"
  | .badPayload _ _ => "signal_payload"

/-- The error as a sentence. -/
def message : SignalError → String
  | .empty =>
      "empty signal line"
  | .unknownTopic key =>
      "unknown topic '" ++ key ++ "'"
  | .badPayload key payload =>
      "invalid payload for '" ++ key ++ "': '" ++ payload ++ "'"

end SignalError

namespace Topic

/-- What stands before the group's name in the key of a control group. -/
def groupOpening : List Char :=
  ['c', 'g', 'r', 'o', 'u', 'p', '.']

/-- What stands after the group's name in the key of a control group. -/
def groupClosing : List Char :=
  ['.', 'l', 'i', 's', 't']

/-- The key of a topic. -/
def key : Topic → String
  | .touch => "input.touch"
  | .button => "input.btn"
  | .inputState => "input.state"
  | .topApp => "topapp.pkgName"
  | .offscreen => "offscreen.state"
  | .cgroup group =>
      String.ofList (groupOpening ++ group.toList ++ groupClosing)

/-- The group named by the key of a control group; the name is not empty. -/
def group? (key : String) : Option String :=
  match groupOpening.isPrefixOf? key.toList with
  | none =>
      none
  | some rest =>
      match groupClosing.isSuffixOf? rest with
      | none =>
          none
      | some [] =>
          none
      | some group =>
          some (String.ofList group)

/-- The topic of a key. -/
def ofKey (key : String) : Except SignalError Topic :=
  if key = "input.touch" then
    .ok .touch
  else if key = "input.btn" then
    .ok .button
  else if key = "input.state" then
    .ok .inputState
  else if key = "topapp.pkgName" then
    .ok .topApp
  else if key = "offscreen.state" then
    .ok .offscreen
  else
    match group? key with
    | some group =>
        .ok (.cgroup group)
    | none =>
        .error (.unknownTopic key)

end Topic

end RefreshRate
