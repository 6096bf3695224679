import Pipewright.Json.Text

/-!
# Words of a document

A literal without quotes and brackets is a word: it is not empty, and its characters
separate nothing.  Numbers are written as words, and so are `null` and the booleans.
-/

namespace Pipewright

namespace Json

/-- May this character stand in a literal without quotes and brackets? -/
def isWordChar (character : Char) : Bool :=
  character.isAlphanum || character == '-' || character == '+' || character == '.'

/-- A literal without quotes and brackets. -/
structure IsWord (word : List Char) : Prop where
  nonempty : word ≠ []
  all : ∀ character ∈ word, isWordChar character = true

/-- May this character stand in the text of a number? -/
def isNumeralChar (character : Char) : Bool :=
  character.isDigit || character == '-' || character == '+' || character == '.' ||
    character == 'e'

/-- What the text of a number looks like. -/
structure IsNumeral (word : List Char) : Prop where
  nonempty : word ≠ []
  all : ∀ character ∈ word, isNumeralChar character = true

theorem isWordChar_of_isNumeralChar {character : Char}
    (numeral : isNumeralChar character = true) : isWordChar character = true := by
  simp only [isNumeralChar, Bool.or_eq_true, beq_iff_eq] at numeral
  rcases numeral with (((digit | rfl) | rfl) | rfl) | rfl
  · simp [isWordChar, Char.isAlphanum, digit]
  · decide
  · decide
  · decide
  · decide

theorem IsNumeral.isWord {word : List Char} (numeral : IsNumeral word) : IsWord word :=
  ⟨numeral.nonempty, fun character mem => isWordChar_of_isNumeralChar (numeral.all character mem)⟩

theorem isNumeralChar_of_isDigit {character : Char} (digit : character.isDigit = true) :
    isNumeralChar character = true := by
  simp [isNumeralChar, digit]

theorem isDigit_of_mem_toDigits {value : Nat} {character : Char}
    (mem : character ∈ Nat.toDigits 10 value) : character.isDigit = true :=
  Nat.isDigit_of_mem_toDigits (by decide) (by decide) mem

/-! ## Doubles -/

theorem isDigit_of_mem_digits {number : Binary64} {character : Char}
    (mem : character ∈ (ShortDecimal.ofPositive number).digits) :
    character.isDigit = true := by
  unfold ShortDecimal.ofPositive at mem
  simp only at mem
  generalize chosen : List.findSome? _ (List.range 17) = candidate at mem
  cases candidate with
  | none =>
      obtain rfl : character = '0' := by simpa using mem
      decide
  | some decimal =>
      obtain ⟨count, _, onGrid⟩ := List.exists_of_findSome?_eq_some chosen
      obtain ⟨coefficient, _, rfl⟩ := Option.map_eq_some_iff.mp onGrid
      have trimmed : character ∈
          ((Nat.toDigits 10 coefficient).reverse.dropWhile (· == '0')).reverse := mem
      have digit := (List.dropWhile_suffix _).mem (List.mem_reverse.mp trimmed)
      exact isDigit_of_mem_toDigits (List.mem_reverse.mp digit)

theorem isNumeral_positional {decimal : ShortDecimal}
    (digits : ∀ digit ∈ decimal.digits, isNumeralChar digit = true) :
    IsNumeral (DecimalLayout.positional decimal) := by
  unfold DecimalLayout.positional
  split
  · refine ⟨by simp, fun character mem => ?_⟩
    simp only [List.mem_append, List.mem_cons, List.not_mem_nil, or_false,
      List.mem_replicate] at mem
    rcases mem with ((rfl | rfl) | ⟨_, rfl⟩) | digit
    · decide
    · decide
    · decide
    · exact digits character digit
  · refine ⟨by simp, fun character mem => ?_⟩
    simp only [List.mem_append, List.mem_cons] at mem
    rcases mem with whole | rfl | fraction
    · rcases List.mem_append.mp (List.mem_of_mem_take whole) with digit | padding
      · exact digits character digit
      · rw [(List.mem_replicate.mp padding).2]
        decide
    · decide
    · split at fraction
      · rw [List.mem_singleton.mp fraction]
        decide
      · exact digits character (List.mem_of_mem_drop fraction)

theorem isNumeral_scientific {decimal : ShortDecimal}
    (digits : ∀ digit ∈ decimal.digits, isNumeralChar digit = true) :
    IsNumeral (DecimalLayout.scientific decimal) := by
  unfold DecimalLayout.scientific
  refine ⟨by simp, fun character mem => ?_⟩
  simp only [List.mem_append, List.mem_cons] at mem
  rcases mem with (first | fraction) | rfl | rfl | power
  · exact digits character (List.mem_of_mem_take first)
  · split at fraction
    · cases fraction
    · rcases List.mem_cons.mp fraction with rfl | digit
      · decide
      · exact digits character (List.mem_of_mem_drop digit)
  · decide
  · split <;> decide
  · exact isNumeralChar_of_isDigit (isDigit_of_mem_toDigits power)

theorem IsNumeral.signed {word : List Char} (numeral : IsNumeral word) (negative : Bool) :
    IsNumeral ((if negative then ['-'] else []) ++ word) := by
  cases negative with
  | false => exact numeral
  | true =>
      refine ⟨by simp, fun character mem => ?_⟩
      rcases List.mem_cons.mp mem with rfl | later
      · decide
      · exact numeral.all character later

theorem isNumeral_write (layout : DecimalLayout) (number : Binary64) :
    IsNumeral (layout.write number) := by
  have digits : ∀ digit ∈ (ShortDecimal.ofPositive number).digits, isNumeralChar digit = true :=
    fun _ mem => isNumeralChar_of_isDigit (isDigit_of_mem_digits mem)
  have zero : IsNumeral ['0', '.', '0'] := ⟨List.cons_ne_nil _ _, List.all_eq_true.mp rfl⟩
  unfold DecimalLayout.write
  simp only
  by_cases isZero : number.isZero = true
  · rw [if_pos isZero]
    exact zero.signed number.negative
  · rw [if_neg isZero]
    apply IsNumeral.signed
    split
    · exact isNumeral_positional digits
    · exact isNumeral_scientific digits

/-! ## Numbers and names -/

theorem isNumeral_toDigits (value : Nat) : IsNumeral (Nat.toDigits 10 value) :=
  ⟨Nat.toDigits_ne_nil, fun _ mem => isNumeralChar_of_isDigit (isDigit_of_mem_toDigits mem)⟩

theorem chars_ofNat (value : Nat) :
    (Number.integer (.ofNat value)).chars = Nat.toDigits 10 value := by
  rw [Number.chars]
  exact Nat.toList_repr

theorem chars_negSucc (value : Nat) :
    (Number.integer (.negSucc value)).chars = '-' :: Nat.toDigits 10 (value + 1) := by
  change ("-" ++ (value + 1).repr).toList = _
  rw [String.toList_append, Nat.toList_repr]
  rfl

theorem isNumeral_number (number : Number) : IsNumeral number.chars := by
  cases number with
  | real value => exact isNumeral_write realLayout value
  | integer value =>
      cases value with
      | ofNat value =>
          rw [chars_ofNat]
          exact isNumeral_toDigits value
      | negSucc value =>
          rw [chars_negSucc]
          exact (isNumeral_toDigits (value + 1)).signed true

/-- The text of every scalar but a string is a word. -/
theorem isWord_compactChars {value : Json} (isScalar : value.isScalar = true)
    (notString : ∀ text, value ≠ .string text) : IsWord value.compactChars := by
  cases value with
  | null => exact ⟨List.cons_ne_nil _ _, List.all_eq_true.mp rfl⟩
  | boolean flag =>
      cases flag with
      | false => exact ⟨List.cons_ne_nil _ _, List.all_eq_true.mp rfl⟩
      | true => exact ⟨List.cons_ne_nil _ _, List.all_eq_true.mp rfl⟩
  | number value =>
      rw [compactChars]
      exact (isNumeral_number value).isWord
  | string text => exact absurd rfl (notString text)
  | array => cases isScalar
  | object => cases isScalar

end Json

end Pipewright
