import RefreshRate.Text.Visible

namespace RefreshRate.Text

/-!
# Quoted text

Log messages and error texts quote foreign strings: the quote and the backslash
are escaped, the four named controls have letters of their own, and every other
character without a visible form is written by its code point.
-/

namespace Quoted

/-- Escape a character by its code point, in lower-case hexadecimal digits. -/
def codePoint (c : Char) : List Char :=
  ['\\', 'u', '\x7b'] ++ Nat.toDigits 16 c.toNat ++ ['\x7d']

/-- The quoted form of one character. -/
def char (c : Char) : List Char :=
  if c = '\x00' then
    ['\\', '0']
  else if c = '\t' then
    ['\\', 't']
  else if c = '\r' then
    ['\\', 'r']
  else if c = '\n' then
    ['\\', 'n']
  else if c = '"' || c = '\\' then
    ['\\', c]
  else if isVisible c then
    [c]
  else
    codePoint c

/-- A text between quotes. -/
def text (content : String) : String :=
  String.ofList ('"' :: content.toList.flatMap char ++ ['"'])

/-- A bracketed list of texts between quotes. -/
def list (contents : List String) : String :=
  "[" ++ ", ".intercalate (contents.map text) ++ "]"

end Quoted

end RefreshRate.Text
