import RefreshRate.Config.Basic
import RefreshRate.Text.Blank

namespace RefreshRate

/-!
# Lines of a configuration

Apart from blank lines and comments, a line that starts with a slash sets a
tunable and any other line gives a rule.  Words beyond those that count are
ignored.
-/

/-- What one line of a configuration says. -/
inductive ConfigLine where
  | blank
  | tunable (name : String) (value : Int)
  | rule (key : String) (rule : Rule)
  deriving Repr, DecidableEq

namespace ConfigLine

/-- The characters that may surround a line; other blanks count as part of it. -/
def isMargin (c : Char) : Bool :=
  c = ' ' || c = '\r' || c = '\n'

/-- The tunable given by the words after the slash. -/
def ofTunableWords : List (List Char) → Except SyntaxError ConfigLine
  | name :: value :: _ =>
      match Text.Decimal.signed? .bits64 value with
      | some number =>
          .ok (.tunable (String.ofList name) number)
      | none =>
          .error (.tunableValue (String.ofList name) (String.ofList value))
  | _ =>
      .error .brokenTunable

/-- The rule given by the words of a line. -/
def ofRuleWords : List (List Char) → Except SyntaxError ConfigLine
  | key :: idle :: active :: _ =>
      match Text.Decimal.signed? .bits32 idle, Text.Decimal.signed? .bits32 active with
      | some idle, some active =>
          .ok (.rule (String.ofList key) ⟨idle, active⟩)
      | _, _ =>
          .error .brokenRule
  | _ =>
      .error .brokenRule

/-- Read a line of which the margins have been trimmed. -/
def ofTrimmed : List Char → Except SyntaxError ConfigLine
  | [] =>
      .ok .blank
  | '#' :: _ =>
      .ok .blank
  | '/' :: rest =>
      ofTunableWords (Text.words rest)
  | line =>
      ofRuleWords (Text.words line)

/-- Read a line. -/
def ofChars (line : List Char) : Except SyntaxError ConfigLine :=
  ofTrimmed (Text.trimBy isMargin line)

end ConfigLine

end RefreshRate
