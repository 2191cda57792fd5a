import RefreshRate.Bus.Registry
import RefreshRate.Log
import RefreshRate.Signal.Line
import RefreshRate.Text.Utf8

namespace RefreshRate

/-!
# The signal feed

A feed is a stream of bytes with one signal in each line.  Blank lines and
comments are skipped, lines that are no signals are reported, and a line that is
no text, its line end apart, ends the feed.
-/

/-- The lines of a stream of bytes, each with its line feed; the last one may lack it. -/
def byteLines : List UInt8 → List (List UInt8)
  | [] =>
      []
  | byte :: rest =>
      if byte = 10 then
        [byte] :: byteLines rest
      else
        match byteLines rest with
        | [] =>
            [[byte]]
        | line :: others =>
            (byte :: line) :: others

/-- The lines put together are the stream. -/
theorem flatten_byteLines (bytes : List UInt8) : (byteLines bytes).flatten = bytes := by
  induction bytes with
  | nil =>
      rfl
  | cons byte rest inductionHypothesis =>
      simp only [byteLines]
      split
      · simp [inductionHypothesis]
      · split
        · rename_i noLines
          rw [noLines] at inductionHypothesis
          simp [← inductionHypothesis]
        · rename_i line others someLines
          rw [someLines] at inductionHypothesis
          simp [← inductionHypothesis]

/--
A line without its line end, which is a line feed and the carriage return before
it.  Without a line feed there is no line end.
-/
def dropLineEnd (line : List UInt8) : List UInt8 :=
  if line.getLast? = some 10 then
    if line.dropLast.getLast? = some 13 then line.dropLast.dropLast else line.dropLast
  else
    line

/-- What a line of a feed holds. -/
inductive FeedLine where
  | skipped
  | accepted (signal : Signal)
  | ignored (line : String) (reason : SignalError)
  deriving Repr, DecidableEq

namespace FeedLine

/-- Read a line that has been trimmed. -/
def ofTrimmed : List Char → FeedLine
  | [] =>
      .skipped
  | '#' :: _ =>
      .skipped
  | trimmed =>
      match Signal.ofTrimmed trimmed with
      | .ok signal =>
          .accepted signal
      | .error reason =>
          .ignored (String.ofList trimmed) reason

/-- Read a line. -/
def ofChars (line : List Char) : FeedLine :=
  ofTrimmed (Text.trim line)

/-- The signal of a line. -/
def signal? : FeedLine → Option Signal
  | .accepted signal => some signal
  | _ => none

/-- The record about a line that is ignored. -/
def record? : FeedLine → Option LogRecord
  | .ignored line reason =>
      some
        { level := .warning
          message := "ignored input '" ++ line ++ "': " ++ reason.message
          reason := some reason.label }
  | _ =>
      none

end FeedLine

/-- The lines of a feed up to its end or to the first line that is no text. -/
structure Feed where
  lines : List FeedLine
  fault? : Option Text.Utf8.Fault
  deriving Repr, DecidableEq

namespace Feed

/-- Read lines of bytes. -/
def ofLines : List (List UInt8) → Feed
  | [] =>
      ⟨[], none⟩
  | line :: rest =>
      match Text.Utf8.decode (dropLineEnd line) with
      | .error fault =>
          ⟨[], some fault⟩
      | .ok text =>
          let feed := ofLines rest
          { feed with lines := FeedLine.ofChars text :: feed.lines }

/-- Read a stream of bytes. -/
def ofBytes (bytes : List UInt8) : Feed :=
  ofLines (byteLines bytes)

/-- The signals of a feed in order. -/
def signals (feed : Feed) : List Signal :=
  feed.lines.filterMap FeedLine.signal?

/-- The record about the end of a feed. -/
def closedRecord (feed : Feed) : LogRecord where
  level := .debug
  message := "signal feed closed"
  published := some feed.signals.length

/-- The records about a feed: one for each ignored line, and one for its end. -/
def records (feed : Feed) : List LogRecord :=
  feed.lines.filterMap FeedLine.record? ++
    if feed.fault?.isNone then [feed.closedRecord] else []

/-- The number of published signals, or the reason why the feed broke off. -/
def published (feed : Feed) : Except Text.Utf8.Fault Nat :=
  match feed.fault? with
  | none =>
      .ok feed.signals.length
  | some fault =>
      .error fault

/-- Publish the signals of a feed on a bus. -/
def publish
    {Subscriber World : Type}
    (feed : Feed)
    (bus : Bus Subscriber)
    (receive : Subscriber → Signal → World → World)
    (world : World) :
    World :=
  feed.signals.foldl (fun world signal => bus.publish receive signal world) world

end Feed

end RefreshRate
