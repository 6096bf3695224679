import Pipewright.Proofs.Json.Doubles
import Pipewright.Proofs.Json.Strings
import Pipewright.Proofs.Json.Words

/-!
# Texts determine documents

A compact text determines its document, up to doubles that are written alike, and where
it ends.  The first character tells the kind of the value.  A number ends where its
characters end, a string is read back, and the parts of a container end before the next
separator.
-/

namespace Pipewright

namespace Json

open Binary64

/-! ## Numbers -/

/-- What comes next is no part of the word before. -/
def EndsWord (rest : List Char) : Prop :=
  ∀ next ∈ rest.head?, isWordChar next = false

theorem endsWord_cons {next : Char} {rest : List Char} (ends : isWordChar next = false) :
    EndsWord (next :: rest) := by
  intro character first
  cases first
  exact ends

theorem takeWhile_append_of_endsWord {word rest : List Char}
    (letters : ∀ letter ∈ word, isWordChar letter = true) (ends : EndsWord rest) :
    (word ++ rest).takeWhile isWordChar = word := by
  rw [List.takeWhile_append_of_pos letters]
  cases rest with
  | nil => simp
  | cons next more =>
      rw [List.takeWhile_cons_of_neg (by rw [ends next rfl]; decide), List.append_nil]

theorem word_append_inj {word word' rest rest' : List Char} (isWord : IsWord word)
    (isWord' : IsWord word') (ends : EndsWord rest) (ends' : EndsWord rest')
    (same : word ++ rest = word' ++ rest') : word = word' ∧ rest = rest' := by
  have words : word = word' := by
    rw [← takeWhile_append_of_endsWord isWord.all ends, same,
      takeWhile_append_of_endsWord isWord'.all ends']
  subst words
  exact ⟨rfl, List.append_cancel_left same⟩

/-- The text of a double has a point or an exponent. -/
theorem exists_mark_write (layout : DecimalLayout) (number : Binary64) :
    ∃ mark ∈ layout.write number, mark = '.' ∨ mark = 'e' := by
  unfold DecimalLayout.write
  simp only
  split
  · exact ⟨'.', List.mem_append_right _ (by decide), .inl rfl⟩
  · by_cases within : layout.leastPositional ≤ (ShortDecimal.ofPositive number).power ∧
        (ShortDecimal.ofPositive number).power ≤ layout.greatestPositional
    · rw [if_pos within]
      refine ⟨'.', List.mem_append_right _ ?_, .inl rfl⟩
      unfold DecimalLayout.positional
      split <;> simp
    · rw [if_neg within]
      refine ⟨'e', List.mem_append_right _ ?_, .inr rfl⟩
      unfold DecimalLayout.scientific
      simp

theorem chars_integer_ne_real (value : Int) (number : Binary64) :
    (Number.integer value).chars ≠ (Number.real number).chars := by
  intro same
  obtain ⟨mark, written, isMark⟩ := exists_mark_write realLayout number
  have inInteger : mark ∈ (Number.integer value).chars := by
    rw [same]
    exact written
  have digitOrSign : mark.isDigit = true ∨ mark = '-' := by
    cases value with
    | ofNat value =>
        rw [chars_ofNat] at inInteger
        exact .inl (isDigit_of_mem_toDigits inInteger)
    | negSucc value =>
        rw [chars_negSucc] at inInteger
        rcases List.mem_cons.mp inInteger with sign | digit
        · exact .inr sign
        · exact .inl (isDigit_of_mem_toDigits digit)
  rcases isMark with rfl | rfl <;> revert digitOrSign <;> decide

theorem toDigits_inj {left right : Nat} (same : Nat.toDigits 10 left = Nat.toDigits 10 right) :
    left = right := by
  have read : ∀ value, Nat.ofDigitChars 10 (Nat.toDigits 10 value) 0 = value :=
    fun _ => Nat.ofDigitChars_toDigits (by decide) (by decide)
  rw [← read left, same, read right]

theorem toDigits_ne_signed (value : Nat) (word : List Char) :
    Nat.toDigits 10 value ≠ '-' :: word := by
  intro same
  have sign : '-' ∈ Nat.toDigits 10 value := by
    rw [same]
    exact List.mem_cons_self ..
  exact absurd (isDigit_of_mem_toDigits sign) (by decide)

theorem chars_integer_inj {left right : Int}
    (same : (Number.integer left).chars = (Number.integer right).chars) : left = right := by
  cases left with
  | ofNat left =>
      cases right with
      | ofNat right =>
          rw [chars_ofNat, chars_ofNat] at same
          rw [toDigits_inj same]
      | negSucc right =>
          rw [chars_ofNat, chars_negSucc] at same
          exact absurd same (toDigits_ne_signed left _)
  | negSucc left =>
      cases right with
      | ofNat right =>
          rw [chars_ofNat, chars_negSucc] at same
          exact absurd same.symm (toDigits_ne_signed right _)
      | negSucc right =>
          rw [chars_negSucc, chars_negSucc] at same
          injection same with _ digits
          rw [Nat.succ.inj (toDigits_inj digits)]

variable {change : Binary64 → Binary64}

theorem mapReal_eq_of_chars_eq (seesText : SeesText change) {left right : Number}
    (same : left.chars = right.chars) :
    left.mapReal change = right.mapReal change := by
  cases left with
  | integer left =>
      cases right with
      | integer right => rw [chars_integer_inj same]
      | real right => exact absurd same (chars_integer_ne_real left right)
  | real left =>
      cases right with
      | integer right => exact absurd same.symm (chars_integer_ne_real right left)
      | real right => rw [Number.mapReal, Number.mapReal, seesText left right same]

/-! ## Strings -/

theorem quoteChars_append_inj {text text' : String} {rest rest' : List Char}
    (same : quoteChars text.toList ++ rest = quoteChars text'.toList ++ rest') :
    text = text' ∧ rest = rest' := by
  have unquoted : text.toList.flatMap escapeChar ++ '"' :: rest =
      text'.toList.flatMap escapeChar ++ '"' :: rest' := by
    simpa [quoteChars] using same
  have read := JsonReader.readString_quoted text.toList rest
  rw [unquoted, JsonReader.readString_quoted, String.ofList_toList, String.ofList_toList] at read
  injection read with pair
  injection pair with texts rests
  exact ⟨texts.symm, rests.symm⟩

/-! ## First characters -/

/-- What the first character of a text tells. -/
inductive Opening where
  | null
  | boolean (value : Bool)
  | number
  | string
  | array
  | object
deriving DecidableEq

/-- What a value's text opens with. -/
def opening : Json → Opening
  | .null => .null
  | .boolean value => .boolean value
  | .number _ => .number
  | .string _ => .string
  | .array _ => .array
  | .object _ => .object

/-- What a first character tells; not every character can be one. -/
def Opening.of? (first : Char) : Option Opening :=
  match first with
  | 'n' => some .null
  | 't' => some (.boolean true)
  | 'f' => some (.boolean false)
  | '"' => some .string
  | '[' => some .array
  | '\x7b' => some .object
  | other => if isNumeralChar other then some .number else none

theorem Opening.of?_numeral {first : Char} (numeral : isNumeralChar first = true) :
    Opening.of? first = some .number := by
  unfold Opening.of?
  split
  case h_7 => rw [if_pos numeral]
  all_goals exact absurd numeral (by decide)

theorem compactChars_opening (value : Json) :
    ∃ first more, value.compactChars = first :: more ∧ Opening.of? first = some value.opening := by
  cases value with
  | null => exact ⟨_, _, rfl, rfl⟩
  | boolean flag => cases flag <;> exact ⟨_, _, rfl, rfl⟩
  | number number =>
      have numeral := isNumeral_number number
      cases written : number.chars with
      | nil => exact absurd written numeral.nonempty
      | cons first more =>
          have inFirst : first ∈ number.chars := by
            rw [written]
            exact List.mem_cons_self ..
          exact ⟨first, more, written, Opening.of?_numeral (numeral.all first inFirst)⟩
  | string text => exact ⟨_, _, rfl, rfl⟩
  | array items => cases items <;> exact ⟨_, _, rfl, rfl⟩
  | object members => cases members <;> exact ⟨_, _, rfl, rfl⟩

/-- Texts that begin alike are texts of one kind of value. -/
theorem opening_eq {left right : Json} {rest rest' : List Char}
    (same : left.compactChars ++ rest = right.compactChars ++ rest') :
    left.opening = right.opening := by
  obtain ⟨first, more, written, opens⟩ := compactChars_opening left
  obtain ⟨first', more', written', opens'⟩ := compactChars_opening right
  rw [written, written'] at same
  injection same with firsts _
  subst firsts
  exact Option.some.inj (opens.symm.trans opens')

/-- No value begins with this character. -/
theorem compactChars_append_ne (value : Json) {first : Char}
    (opensNothing : Opening.of? first = none) (rest more : List Char) :
    value.compactChars ++ rest ≠ first :: more := by
  intro same
  obtain ⟨first', _, written, opens⟩ := compactChars_opening value
  rw [written] at same
  injection same with firsts _
  rw [firsts, opensNothing] at opens
  cases opens

/-! ## Documents -/

theorem compactChars_array_append (item : Json) (items : List Json) (rest : List Char) :
    (Json.array (item :: items)).compactChars ++ rest =
      '[' :: (item.compactChars ++ (compactItems items ++ ']' :: rest)) := by
  simp [compactChars]

theorem compactChars_object_append (key : String) (value : Json) (members : Members)
    (rest : List Char) :
    (Json.object ((key, value) :: members)).compactChars ++ rest =
      '\x7b' :: (quoteChars key.toList ++
        ':' :: (value.compactChars ++ (compactMembers members ++ '\x7d' :: rest))) := by
  simp [compactChars]

theorem compactItems_append (item : Json) (items : List Json) (rest : List Char) :
    compactItems (item :: items) ++ rest =
      ',' :: (item.compactChars ++ (compactItems items ++ rest)) := by
  simp [compactItems]

theorem compactMembers_append (key : String) (value : Json) (members : Members)
    (rest : List Char) :
    compactMembers ((key, value) :: members) ++ rest =
      ',' :: (quoteChars key.toList ++
        ':' :: (value.compactChars ++ (compactMembers members ++ rest))) := by
  simp [compactMembers]

theorem endsWord_compactItems (items : List Json) (more : List Char) :
    EndsWord (compactItems items ++ ']' :: more) := by
  cases items with
  | nil => exact endsWord_cons (by decide)
  | cons item items => exact endsWord_cons (by decide)

theorem endsWord_compactMembers (members : Members) (more : List Char) :
    EndsWord (compactMembers members ++ '\x7d' :: more) := by
  cases members with
  | nil => exact endsWord_cons (by decide)
  | cons member members => exact endsWord_cons (by decide)

mutual

/-- The text of a value and what comes after it determine the value and the rest. -/
theorem compactChars_append_inj (seesText : SeesText change) : (left right : Json) →
    {rest rest' : List Char} → EndsWord rest → EndsWord rest' →
    left.compactChars ++ rest = right.compactChars ++ rest' →
      left.mapReals change = right.mapReals change ∧ rest = rest'
  | .null, right, _, _, _, _, same => by
      cases right with
      | null => exact ⟨rfl, List.append_cancel_left same⟩
      | _ => cases opening_eq same
  | .boolean flag, right, _, _, _, _, same => by
      cases right with
      | boolean flag' =>
          obtain rfl : flag = flag' := by
            have opens := opening_eq same
            injection opens
          exact ⟨rfl, List.append_cancel_left same⟩
      | _ => cases opening_eq same
  | .number value, right, _, _, ends, ends', same => by
      cases right with
      | number value' =>
          obtain ⟨texts, rests⟩ := word_append_inj (isNumeral_number value).isWord
            (isNumeral_number value').isWord ends ends' same
          rw [mapReals, mapReals, mapReal_eq_of_chars_eq seesText texts]
          exact ⟨rfl, rests⟩
      | _ => cases opening_eq same
  | .string text, right, _, _, _, _, same => by
      cases right with
      | string text' =>
          obtain ⟨rfl, rests⟩ := quoteChars_append_inj same
          exact ⟨rfl, rests⟩
      | _ => cases opening_eq same
  | .array [], right, _, _, _, _, same => by
      cases right with
      | array items' =>
          cases items' with
          | nil => exact ⟨rfl, List.append_cancel_left same⟩
          | cons item' items' =>
              rw [compactChars_array_append] at same
              injection same with _ inner
              exact absurd inner.symm (compactChars_append_ne item' rfl _ _)
      | _ => cases opening_eq same
  | .array (item :: items), right, rest, rest', _, _, same => by
      cases right with
      | array items' =>
          cases items' with
          | nil =>
              rw [compactChars_array_append] at same
              injection same with _ inner
              exact absurd inner (compactChars_append_ne item rfl _ _)
          | cons item' items' =>
              rw [compactChars_array_append, compactChars_array_append] at same
              injection same with _ inner
              -- behind the bracket both read as if a comma stood there instead
              have listed : compactItems (item :: items) ++ ']' :: rest =
                  compactItems (item' :: items') ++ ']' :: rest' := by
                rw [compactItems_append, compactItems_append, inner]
              obtain ⟨all, rests⟩ :=
                compactItems_append_inj seesText (item :: items) (item' :: items') listed
              rw [mapReals, mapReals, all]
              exact ⟨rfl, rests⟩
      | _ => cases opening_eq same
  | .object [], right, _, _, _, _, same => by
      cases right with
      | object members' =>
          cases members' with
          | nil => exact ⟨rfl, List.append_cancel_left same⟩
          | cons member' members' =>
              rw [compactChars_object_append] at same
              injection same with _ inner
              exact absurd inner.symm (compactChars_append_ne (.string member'.1) rfl _ _)
      | _ => cases opening_eq same
  | .object ((key, value) :: members), right, rest, rest', _, _, same => by
      cases right with
      | object members' =>
          cases members' with
          | nil =>
              rw [compactChars_object_append] at same
              injection same with _ inner
              exact absurd inner (compactChars_append_ne (.string key) rfl _ _)
          | cons member' members' =>
              obtain ⟨key', value'⟩ := member'
              rw [compactChars_object_append, compactChars_object_append] at same
              injection same with _ inner
              have listed : compactMembers ((key, value) :: members) ++ '\x7d' :: rest =
                  compactMembers ((key', value') :: members') ++ '\x7d' :: rest' := by
                rw [compactMembers_append, compactMembers_append, inner]
              obtain ⟨all, rests⟩ := compactMembers_append_inj seesText
                ((key, value) :: members) ((key', value') :: members') listed
              rw [mapReals, mapReals, all]
              exact ⟨rfl, rests⟩
      | _ => cases opening_eq same

theorem compactItems_append_inj (seesText : SeesText change) : (lefts rights : List Json) →
    {rest rest' : List Char} →
    compactItems lefts ++ ']' :: rest = compactItems rights ++ ']' :: rest' →
      mapItemReals change lefts = mapItemReals change rights ∧ rest = rest'
  | [], rights, _, _, same => by
      cases rights with
      | nil =>
          injection same with _ rests
          exact ⟨rfl, rests⟩
      | cons right rights =>
          rw [compactItems_append] at same
          injection same with bracket _
          exact absurd bracket (by decide)
  | left :: lefts, rights, _, _, same => by
      cases rights with
      | nil =>
          rw [compactItems_append] at same
          injection same with comma _
          exact absurd comma (by decide)
      | cons right rights =>
          rw [compactItems_append, compactItems_append] at same
          injection same with _ inner
          obtain ⟨first, behind⟩ := compactChars_append_inj seesText left right
            (endsWord_compactItems lefts _) (endsWord_compactItems rights _) inner
          obtain ⟨others, rests⟩ := compactItems_append_inj seesText lefts rights behind
          rw [mapItemReals, mapItemReals, first, others]
          exact ⟨rfl, rests⟩

theorem compactMembers_append_inj (seesText : SeesText change) : (lefts rights : Members) →
    {rest rest' : List Char} →
    compactMembers lefts ++ '\x7d' :: rest = compactMembers rights ++ '\x7d' :: rest' →
      mapMemberReals change lefts = mapMemberReals change rights ∧ rest = rest'
  | [], rights, _, _, same => by
      cases rights with
      | nil =>
          injection same with _ rests
          exact ⟨rfl, rests⟩
      | cons right rights =>
          rw [compactMembers_append] at same
          injection same with brace _
          exact absurd brace (by decide)
  | (key, left) :: lefts, rights, _, _, same => by
      cases rights with
      | nil =>
          rw [compactMembers_append] at same
          injection same with comma _
          exact absurd comma (by decide)
      | cons right rights =>
          obtain ⟨key', right⟩ := right
          rw [compactMembers_append, compactMembers_append] at same
          injection same with _ inner
          obtain ⟨rfl, behindKey⟩ := quoteChars_append_inj inner
          injection behindKey with _ values
          obtain ⟨first, behind⟩ := compactChars_append_inj seesText left right
            (endsWord_compactMembers lefts _) (endsWord_compactMembers rights _) values
          obtain ⟨others, rests⟩ := compactMembers_append_inj seesText lefts rights behind
          rw [mapMemberReals, mapMemberReals, first, others]
          exact ⟨rfl, rests⟩

end

/-- Documents with one compact text differ at most in doubles that are written alike. -/
theorem mapReals_eq_of_compact_eq (seesText : SeesText change) {left right : Json}
    (same : left.compact = right.compact) :
    left.mapReals change = right.mapReals change := by
  have chars : left.compactChars ++ [] = right.compactChars ++ [] := by
    rw [List.append_nil, List.append_nil]
    exact String.ofList_injective same
  have ends : EndsWord [] := by
    intro next first
    cases first
  exact (compactChars_append_inj seesText left right ends ends chars).1

/-- Where the doubles of two documents are read back, their compact texts tell them apart. -/
theorem eq_of_compact_eq {left right : Json} (leftReads : ∀ number ∈ left.reals, number.ReadsBack)
    (rightReads : ∀ number ∈ right.reals, number.ReadsBack)
    (same : left.compact = right.compact) : left = right := by
  have leftFixed := mapReals_eq_self left fun number mem => (leftReads number mem).reread_eq
  have rightFixed := mapReals_eq_self right fun number mem => (rightReads number mem).reread_eq
  rw [← leftFixed, ← rightFixed]
  exact mapReals_eq_of_compact_eq seesText_reread same

end Json

end Pipewright
