import Mathlib.Data.Nat.Digits.Defs
import RefreshRate.Proofs.Text.Words
import RefreshRate.Text.Decimal

namespace RefreshRate.Text.Decimal

/-!
# Numerals

A numeral is a word for an integer: digits, with or without a sign.  A reader accepts the
numerals of the integers that fit its width, however they are written, and what is printed
is one of them.
-/

variable
  {digits word : List Char}
  {value : Int}
  {width : Width}

/-- The number that digits stand for; the last one counts the ones. -/
def magnitude (digits : List Char) : Nat :=
  Nat.ofDigits 10 (digits.reverse.map fun c => c.toNat - '0'.toNat)

/-- A word is an optional sign and digits that stand for an integer. -/
inductive IsNumeral : List Char → Int → Prop where
  | unsigned
      {digits : List Char}
      (notEmpty : digits ≠ [])
      (allDigits : ∀ c ∈ digits, c.isDigit = true) :
      IsNumeral digits (magnitude digits)
  | plus
      {digits : List Char}
      (notEmpty : digits ≠ [])
      (allDigits : ∀ c ∈ digits, c.isDigit = true) :
      IsNumeral ('+' :: digits) (magnitude digits)
  | minus
      {digits : List Char}
      (notEmpty : digits ≠ [])
      (allDigits : ∀ c ∈ digits, c.isDigit = true) :
      IsNumeral ('-' :: digits) (-(magnitude digits : Int))

/-- Digits are added up from the left as well as from the right. -/
theorem ofDigitChars_eq_magnitude (digits : List Char) :
    Nat.ofDigitChars 10 digits 0 = magnitude digits := by
  induction digits using List.reverseRecOn with
  | nil =>
      rfl
  | append_singleton digits last inductionHypothesis =>
      simp only [magnitude] at inductionHypothesis
      simp only [magnitude, Nat.ofDigitChars_append, Nat.ofDigitChars_cons, Nat.ofDigitChars_nil,
        List.reverse_append, List.reverse_singleton, List.singleton_append, List.map_cons,
        Nat.ofDigits_cons, inductionHypothesis]
      exact Nat.add_comm _ _

theorem natural?_eq_some_iff
    {number : Nat} :
    natural? digits = some number ↔
      (digits ≠ [] ∧ ∀ c ∈ digits, c.isDigit = true) ∧ number = magnitude digits := by
  unfold natural?
  rw [ofDigitChars_eq_magnitude]
  split
  · rename_i areDigits
    simp only [Bool.and_eq_true, Bool.not_eq_true', List.isEmpty_eq_false_iff,
      List.all_eq_true] at areDigits
    constructor
    · rintro ⟨⟩
      exact ⟨areDigits, rfl⟩
    · rintro ⟨-, rfl⟩
      rfl
  · rename_i notDigits
    simp only [Bool.and_eq_true, Bool.not_eq_true', List.isEmpty_eq_false_iff,
      List.all_eq_true] at notDigits
    simp [notDigits]

theorem integer?_of_isNumeral (isNumeral : IsNumeral word value) : integer? word = some value := by
  cases isNumeral with
  | plus notEmpty allDigits =>
      simp [integer?, natural?_eq_some_iff.mpr ⟨⟨notEmpty, allDigits⟩, rfl⟩]
  | minus notEmpty allDigits =>
      simp [integer?, natural?_eq_some_iff.mpr ⟨⟨notEmpty, allDigits⟩, rfl⟩]
  | unsigned notEmpty allDigits =>
      have read := natural?_eq_some_iff.mpr ⟨⟨notEmpty, allDigits⟩, rfl⟩
      -- A word that starts with a digit has no sign to be stripped.
      unfold integer?
      split
      · rename_i rest
        have isDigit := allDigits '+' List.mem_cons_self
        cases isDigit
      · rename_i rest
        have isDigit := allDigits '-' List.mem_cons_self
        cases isDigit
      · simp [read]

theorem isNumeral_of_integer? (read : integer? word = some value) : IsNumeral word value := by
  unfold integer? at read
  split at read
  · obtain ⟨number, digitsRead, rfl⟩ := Option.map_eq_some_iff.mp read
    obtain ⟨⟨notEmpty, allDigits⟩, rfl⟩ := natural?_eq_some_iff.mp digitsRead
    exact .plus notEmpty allDigits
  · obtain ⟨integer, integerRead, rfl⟩ := Option.map_eq_some_iff.mp read
    obtain ⟨number, digitsRead, isInteger⟩ := Option.bind_eq_some_iff.mp integerRead
    cases isInteger
    obtain ⟨⟨notEmpty, allDigits⟩, rfl⟩ := natural?_eq_some_iff.mp digitsRead
    exact .minus notEmpty allDigits
  · obtain ⟨number, digitsRead, rfl⟩ := Option.map_eq_some_iff.mp read
    obtain ⟨⟨notEmpty, allDigits⟩, rfl⟩ := natural?_eq_some_iff.mp digitsRead
    exact .unsigned notEmpty allDigits

theorem contains_iff :
    width.contains value = true ↔ -width.limit ≤ value ∧ value < width.limit := by
  simp [Width.contains]

/-- The words that are read are the numerals of the integers that fit. -/
theorem signed?_eq_some_iff :
    signed? width word = some value ↔
      IsNumeral word value ∧ -width.limit ≤ value ∧ value < width.limit := by
  rw [signed?, Option.filter_eq_some_iff, contains_iff]
  constructor
  · rintro ⟨read, fits⟩
    exact ⟨isNumeral_of_integer? read, fits⟩
  · rintro ⟨isNumeral, fits⟩
    exact ⟨integer?_of_isNumeral isNumeral, fits⟩

/-- What is printed for an integer is one of its numerals. -/
theorem isNumeral_chars (value : Int) : IsNumeral (chars value) value := by
  have notEmpty : Nat.toDigits 10 value.natAbs ≠ [] := Nat.toDigits_ne_nil
  have allDigits : ∀ c ∈ Nat.toDigits 10 value.natAbs, c.isDigit = true :=
    fun c member => Nat.isDigit_of_mem_toDigits (by decide) (by decide) member
  have magnitudeIs : magnitude (Nat.toDigits 10 value.natAbs) = value.natAbs := by
    rw [← ofDigitChars_eq_magnitude]
    exact Nat.ofDigitChars_ten_toDigits
  unfold chars
  split
  · have numeral := IsNumeral.minus notEmpty allDigits
    rw [magnitudeIs] at numeral
    have valueIs : -(value.natAbs : Int) = value := by
      omega
    rwa [valueIs] at numeral
  · have numeral := IsNumeral.unsigned notEmpty allDigits
    rw [magnitudeIs] at numeral
    have valueIs : (value.natAbs : Int) = value := by
      omega
    rwa [valueIs] at numeral

theorem isBlank_eq_false_of_isDigit
    {c : Char}
    (isDigit : c.isDigit = true) :
    isBlank c = false := by
  have inRange : 48 ≤ c.toNat ∧ c.toNat ≤ 57 := by
    simp only [Char.isDigit, Bool.and_eq_true, decide_eq_true_eq] at isDigit
    exact isDigit
  simp only [isBlank, inRanges, blankRanges, List.any_cons, List.any_nil, Bool.or_false,
    Bool.or_eq_false_iff, Bool.and_eq_false_iff, decide_eq_false_iff_not]
  omega

/-- A numeral is one word. -/
theorem IsNumeral.isWord (isNumeral : IsNumeral word value) : IsWord word := by
  cases isNumeral with
  | unsigned notEmpty allDigits =>
      exact ⟨notEmpty, fun c member => isBlank_eq_false_of_isDigit (allDigits c member)⟩
  | plus notEmpty allDigits | minus notEmpty allDigits =>
      refine ⟨List.cons_ne_nil _ _, fun c member => ?_⟩
      rcases List.mem_cons.mp member with rfl | isDigit
      · decide
      · exact isBlank_eq_false_of_isDigit (allDigits c isDigit)

end RefreshRate.Text.Decimal
