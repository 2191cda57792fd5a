import RefreshRate.Signal.Basic
import RefreshRate.Text.Blank
import RefreshRate.Text.Decimal

namespace RefreshRate

/-!
# Signal lines

A signal line is a topic key, blanks, and a payload whose form depends on the
topic: one flag, three flags, one package name, or any number of task numbers.
`Signal.ofLine` reads a line and `Signal.line` writes one.
-/

namespace Signal

/-- A flag is written as a digit or as a word. -/
def flag? (word : List Char) : Option Bool :=
  if word = ['1'] || word = ['t', 'r', 'u', 'e'] then
    some true
  else if word = ['0'] || word = ['f', 'a', 'l', 's', 'e'] then
    some false
  else
    none

/-- The values of all words, if every word has one. -/
def all?
    {α : Type}
    (value? : List Char → Option α) :
    List (List Char) → Option (List α)
  | [] =>
      some []
  | word :: rest =>
      match value? word, all? value? rest with
      | some value, some values =>
          some (value :: values)
      | _, _ =>
          none

/-- Three flags in the order hold, swipe, gesture. -/
def inputState? (payload : List Char) : Option InputState :=
  match all? flag? (Text.words payload) with
  | some [inHold, inSwipe, inGesture] =>
      some ⟨inHold, inSwipe, inGesture⟩
  | _ =>
      none

/-- A package name is not empty and holds no blank. -/
def package? (payload : List Char) : Option String :=
  if payload.isEmpty || payload.any Text.isBlank then
    none
  else
    some (String.ofList payload)

/-- Task numbers are signed integers of 32 bits. -/
def tasks? (payload : List Char) : Option (List Int) :=
  all? (Text.Decimal.signed? .bits32) (Text.words payload)

/-- The signal of a topic with a given payload. -/
def ofPayload?
    (topic : Topic)
    (payload : List Char) :
    Option Signal :=
  match topic with
  | .touch =>
      (flag? payload).map .touch
  | .button =>
      (flag? payload).map .button
  | .inputState =>
      (inputState? payload).map .inputState
  | .topApp =>
      (package? payload).map .topApp
  | .offscreen =>
      (flag? payload).map .offscreen
  | .cgroup group =>
      (tasks? payload).map (.cgroup group)

/-- The key of a trimmed line ends at its first blank. -/
def lineKey (trimmed : List Char) : List Char :=
  trimmed.takeWhile fun c => !Text.isBlank c

/-- The payload of a trimmed line is what follows its key, without outer blanks. -/
def linePayload (trimmed : List Char) : List Char :=
  Text.trim (trimmed.dropWhile fun c => !Text.isBlank c)

/-- Read a signal line that has been trimmed. -/
def ofTrimmed (trimmed : List Char) : Except SignalError Signal :=
  if trimmed.isEmpty then
    .error .empty
  else
    match Topic.ofKey (String.ofList (lineKey trimmed)) with
    | .error reason =>
        .error reason
    | .ok topic =>
        match ofPayload? topic (linePayload trimmed) with
        | some signal =>
            .ok signal
        | none =>
            .error
              (.badPayload
                (String.ofList (lineKey trimmed))
                (String.ofList (linePayload trimmed)))

/-- Read a signal line. -/
def ofLine (line : String) : Except SignalError Signal :=
  ofTrimmed (Text.trim line.toList)

/-- The digit that stands for a flag. -/
def flagChar (flag : Bool) : Char :=
  if flag then '1' else '0'

/-- The words of a signal's payload. -/
def payloadWords : Signal → List (List Char)
  | .touch pressed =>
      [[flagChar pressed]]
  | .button pressed =>
      [[flagChar pressed]]
  | .inputState state =>
      [[flagChar state.inHold], [flagChar state.inSwipe], [flagChar state.inGesture]]
  | .topApp package =>
      [package.toList]
  | .offscreen isOff =>
      [[flagChar isOff]]
  | .cgroup _ tasks =>
      tasks.map Text.Decimal.chars

/-- The line of a signal: its topic's key and the words of its payload. -/
def line (signal : Signal) : String :=
  String.ofList ([' '].intercalate (signal.topic.key.toList :: signal.payloadWords))

end Signal

end RefreshRate
