namespace RefreshRate.Text

/-!
# Decimal integers

A decimal integer is an optional sign and at least one digit.  Readers bound the
value: 32 bits for rules and task numbers, 64 bits for tunables.
-/

namespace Decimal

/-- The value of a nonempty run of digits. -/
def natural? (digits : List Char) : Option Nat :=
  if !digits.isEmpty && digits.all Char.isDigit then
    some (Nat.ofDigitChars 10 digits 0)
  else
    none

/-- The value of an optional sign followed by digits. -/
def integer? : List Char → Option Int
  | '+' :: digits =>
      (natural? digits).map Int.ofNat
  | '-' :: digits =>
      (natural? digits).map fun magnitude => -(magnitude : Int)
  | digits =>
      (natural? digits).map Int.ofNat

/-- The width of a signed integer. -/
inductive Width where
  | bits32
  | bits64
  deriving Repr, DecidableEq

namespace Width

/-- The least magnitude that only a negative integer of a width can have. -/
def limit : Width → Int
  | .bits32 => 2147483648
  | .bits64 => 9223372036854775808

/-- Whether an integer fits into a width. -/
def contains
    (width : Width)
    (value : Int) :
    Bool :=
  -width.limit ≤ value && value < width.limit

end Width

/-- The value of a signed integer of a given width, if it fits. -/
def signed?
    (width : Width)
    (cs : List Char) :
    Option Int :=
  (integer? cs).filter width.contains

/-- The digits of an integer, with a sign only where it is negative. -/
def chars (value : Int) : List Char :=
  if value < 0 then
    '-' :: Nat.toDigits 10 value.natAbs
  else
    Nat.toDigits 10 value.natAbs

/-- The text of an integer. -/
def text (value : Int) : String :=
  String.ofList (chars value)

end Decimal

end RefreshRate.Text
