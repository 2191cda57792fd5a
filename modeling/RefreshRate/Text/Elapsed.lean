import RefreshRate.Text.Decimal

namespace RefreshRate.Text

/-!
# Spans of time

A span is written in seconds once it reaches one second and in milliseconds
below that, with no fraction digits beyond the last that counts.
-/

namespace Elapsed

/-- The three digits of a count of thousandths. -/
def thousandths (count : Nat) : List Char :=
  [Nat.digitChar (count / 100 % 10), Nat.digitChar (count / 10 % 10),
    Nat.digitChar (count % 10)]

/-- A point and the fraction digits of a count of thousandths, without final zeros. -/
def fraction (count : Nat) : List Char :=
  match ((thousandths count).reverse.dropWhile (· == '0')).reverse with
  | [] =>
      []
  | digits =>
      '.' :: digits

/-- The text of a span given in milliseconds. -/
def text (milliseconds : Nat) : String :=
  if milliseconds = 0 then
    "0ns"
  else if milliseconds < 1000 then
    String.ofList (Nat.toDigits 10 milliseconds) ++ "ms"
  else
    String.ofList
      (Nat.toDigits 10 (milliseconds / 1000) ++ fraction (milliseconds % 1000)) ++ "s"

end Elapsed

end RefreshRate.Text
