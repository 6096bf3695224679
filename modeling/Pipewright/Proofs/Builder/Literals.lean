import Pipewright.Proofs.Builder.Tokens
import Mathlib.Data.List.TakeDrop

/-!
# Reading literals back

Every literal of generated source is read back to the scalar or document that it was
written for: words and quoted strings, compact documents, expressions and template
literals.
-/

namespace Pipewright

namespace Replay

open Json Expression

variable {reader : LiteralReader} {document : Json} {text text' : List Char}
  {character : Char}

/-! ## What a value starts with -/

theorem literal_congr (same : skip text = skip text') :
    literal reader text = literal reader text' := by
  rw [literal, literal, same]

theorem value_congr (same : skip text = skip text') :
    value reader text = value reader text' := by
  have chained : chain reader "node" text = chain reader "node" text' := by
    rw [chain, chain, eat?_congr same, same]
  rw [value, value, startsWith, startsWith, same, eat?_congr same, eat?_congr same,
    eat?_congr same, literal_congr same, chained]

/-- Where no other token comes, a value is a literal. -/
theorem value_literal (node : startsWith "node(" text = false)
    (expression : startsWith "expr(" text = false) (template : eat? "\x60" text = none)
    (bracket : eat? "[" text = none) : value reader text = literal reader text := by
  have noCall : eat? "expr(" text = none := by
    rw [eat?, expression]
    rfl
  rw [value, node, noCall, template, bracket]
  rfl

/-- What stands behind a value in generated source. -/
inductive Separated : List Char → Prop where
  | comma (rest : List Char) : Separated (',' :: rest)
  | parenthesis (rest : List Char) : Separated (')' :: rest)
  | bracket (rest : List Char) : Separated (']' :: rest)

/-- The text starts neither with a blank nor with a closing bracket or parenthesis. -/
def StartsValue (text : List Char) : Prop :=
  ∃ first more, text = first :: more ∧ isBlank first = false ∧ first ≠ ']' ∧ first ≠ ')'

/-- Behind a value there is less text, whether a comma is passed or not. -/
theorem StartsValue.shorter {written : List Char} (starts : StartsValue written)
    (after : List Char) :
    ((eat? "," after).getD after).length < (skip (written ++ after)).length := by
  obtain ⟨first, more, rfl, plain, _, _⟩ := starts
  have passed := eat?_getD_length_le "," after
  rw [List.cons_append, skip_of_head plain, List.length_cons, List.length_append]
  omega

/-- Source for a value that is read back as the given one, whatever is behind it. -/
structure Reads (reader : LiteralReader) (written : List Char) (content : Json) : Prop where
  starts : StartsValue written
  value : ∀ {rest}, Separated rest → value reader (written ++ rest) = some (content, rest)

/-! ## Words -/

/-- A character of a word separates nothing and opens nothing. -/
theorem plain_of_isWordChar (letter : isWordChar character = true) :
    isBlank character = false ∧ endsBare character = false := by
  have isWord := letter
  delta isWordChar Char.isAlphanum Char.isAlpha Char.isUpper Char.isLower Char.isDigit at letter
  simp only [Bool.or_eq_true, Bool.and_eq_true, decide_eq_true_eq, beq_iff_eq,
    UInt32.le_iff_toNat_le, ge_iff_le] at letter
  constructor
  · rw [Bool.eq_false_iff]
    intro blank
    simp only [isBlank, Bool.or_eq_true, Bool.and_eq_true, decide_eq_true_eq, beq_iff_eq,
      Char.toNat] at blank
    rcases letter with ((((_ | _) | _) | rfl) | rfl) | rfl
    all_goals simp at *
    all_goals omega
  · rw [Bool.eq_false_iff]
    intro ends
    simp only [endsBare, Bool.or_eq_true, beq_iff_eq] at ends
    rcases ends with (((rfl | rfl) | rfl) | rfl) | rfl <;> exact absurd isWord (by decide)

theorem ne_of_isWordChar (letter : isWordChar character = true) {other : Char}
    (notLetter : isWordChar other = false) : character ≠ other := by
  rintro rfl
  rw [letter] at notLetter
  cases notLetter

theorem Separated.next {rest : List Char} (separated : Separated rest) :
    ∃ next more, rest = next :: more ∧ endsBare next = true ∧ isWordChar next = false ∧
      next ≠ '(' := by
  cases separated with
  | comma more => exact ⟨',', more, rfl, by decide, by decide, by decide⟩
  | parenthesis more => exact ⟨')', more, rfl, by decide, by decide, by decide⟩
  | bracket more => exact ⟨']', more, rfl, by decide, by decide, by decide⟩

/-- A bare literal ends at a separator. -/
theorem literal_word {word rest : List Char} (isWord : IsWord word)
    (separated : Separated rest) :
    literal reader (word ++ rest) = (reader.bare word).map fun value => (value, rest) := by
  obtain ⟨next, more, rfl, ends, -, -⟩ := separated.next
  have inside : ∀ letter ∈ word, (!endsBare letter) = true := by
    intro letter mem
    rw [(plain_of_isWordChar (isWord.all letter mem)).2]
    rfl
  have spanned : (word ++ next :: more).span (fun letter => !endsBare letter) =
      (word, next :: more) := by
    rw [List.span_eq_takeWhile_dropWhile, List.takeWhile_append_of_pos inside,
      List.dropWhile_append_of_pos inside,
      List.takeWhile_cons_of_neg (by rw [ends]; decide),
      List.dropWhile_cons_of_neg (by rw [ends]; decide), List.append_nil]
  cases word with
  | nil => exact absurd rfl isWord.nonempty
  | cons first letters =>
      have letter := isWord.all first (List.mem_cons_self ..)
      unfold literal
      rw [List.cons_append, skip_of_head (plain_of_isWordChar letter).1]
      rw [List.cons_append] at spanned
      split
      · next same =>
          injection same with quote _
          exact absurd quote (ne_of_isWordChar letter (by decide))
      · next same =>
          injection same with bracket _
          exact absurd bracket (ne_of_isWordChar letter (by decide))
      · next same =>
          injection same with brace _
          exact absurd brace (ne_of_isWordChar letter (by decide))
      · rw [spanned]

theorem reads_word {word : List Char} {content : Json} (isWord : IsWord word)
    (bare : reader.bare word = some content) : Reads reader word content := by
  have plain : ∀ letter ∈ word, isBlank letter = false :=
    fun letter mem => (plain_of_isWordChar (isWord.all letter mem)).1
  cases word with
  | nil => exact absurd rfl isWord.nonempty
  | cons first letters =>
      have letter := isWord.all first (List.mem_cons_self ..)
      have plainFirst := plain first (List.mem_cons_self ..)
      refine ⟨⟨first, letters, rfl, plainFirst, ne_of_isWordChar letter (by decide),
        ne_of_isWordChar letter (by decide)⟩, ?_⟩
      intro rest separated
      obtain ⟨next, more, rfl, _, ends, different⟩ := separated.next
      have node : startsWith "node(" (first :: letters ++ next :: more) = false :=
        startsWith_word isWord ['n', 'o', 'd', 'e'] rfl (List.all_eq_true.mp rfl) ends different
          plain more
      have expression : startsWith "expr(" (first :: letters ++ next :: more) = false :=
        startsWith_word isWord ['e', 'x', 'p', 'r'] rfl (List.all_eq_true.mp rfl) ends different
          plain more
      rw [value_literal node expression
        (eat?_of_ne rfl plainFirst (ne_of_isWordChar letter (by decide)) _)
        (eat?_of_ne rfl plainFirst (ne_of_isWordChar letter (by decide)) _),
        literal_word isWord separated, bare]
      rfl

theorem reads_bare (readsBack : reader.ReadsBack document) (isScalar : document.isScalar = true)
    (notString : ∀ text, document ≠ .string text) :
    Reads reader document.compactChars document :=
  reads_word (isWord_compactChars isScalar notString)
    (readsBack.scalar document isScalar notString .whole)

/-! ## Strings and objects -/

/-- Any text that opens with a character of its own is a literal. -/
theorem value_of_head (plain : isBlank character = false)
    (own : character ∉ ['n', 'e', '\x60', '[']) (rest : List Char) :
    value reader (character :: rest) = literal reader (character :: rest) := by
  simp only [List.mem_cons, List.not_mem_nil, or_false, not_or] at own
  obtain ⟨node, expression, template, bracket⟩ := own
  exact value_literal (startsWith_of_ne rfl plain node rest)
    (startsWith_of_ne rfl plain expression rest) (eat?_of_ne rfl plain template rest)
    (eat?_of_ne rfl plain bracket rest)

theorem literal_quoted (readsBack : reader.ReadsBack document) (text rest : List Char) :
    literal reader (quoteChars text ++ rest) = some (.string (String.ofList text), rest) :=
  readsBack.string text rest

theorem reads_quoted (readsBack : reader.ReadsBack document) (text : List Char) :
    Reads reader (quoteChars text) (.string (String.ofList text)) where
  starts := ⟨'"', _, rfl, by decide, by decide, by decide⟩
  value := by
    intro rest _
    have opened : quoteChars text ++ rest = '"' :: (text.flatMap escapeChar ++ ['"'] ++ rest) := rfl
    rw [opened, value_of_head (by decide) (by decide), ← opened, literal_quoted readsBack]

theorem compactChars_object (members : Members) :
    ∃ more, (Json.object members).compactChars = '\x7b' :: more := by
  cases members with
  | nil => exact ⟨['\x7d'], rfl⟩
  | cons member rest => exact ⟨_, by rw [compactChars]; rfl⟩

theorem reads_object {members : Members} (readsBack : reader.ReadsBack (.object members)) :
    Reads reader (Json.object members).compactChars (.object members) := by
  obtain ⟨more, opened⟩ := compactChars_object members
  refine ⟨⟨'\x7b', more, opened, by decide, by decide, by decide⟩, ?_⟩
  intro rest _
  have read := readsBack.object members rest .whole
  rw [opened] at read ⊢
  rw [List.cons_append, value_of_head (by decide) (by decide)]
  exact read

/-! ## Arrays -/

theorem items_congr (same : skip text = skip text') :
    items reader text = items reader text' := by
  rw [items, items, eat?_congr same, value_congr same, same]

/-- The bracket of an array behind blanks. -/
theorem items_nil (blanks : List Char) (all : ∀ blank ∈ blanks, isBlank blank = true)
    (rest : List Char) : items reader (blanks ++ ']' :: rest) = some ([], rest) := by
  rw [items_congr (skip_append all _), items]
  rfl

/-- An element behind blanks, a comma if there is one, and the other elements. -/
theorem items_cons {written after rest : List Char} {element : Json} {elements : List Json}
    (blanks : List Char) (all : ∀ blank ∈ blanks, isBlank blank = true)
    (reads : Reads reader written element) (separated : Separated after)
    (others : items reader ((eat? "," after).getD after) = some (elements, rest)) :
    items reader (blanks ++ (written ++ after)) = some (element :: elements, rest) := by
  -- the array goes on, since no value starts with a closing bracket
  obtain ⟨first, more, same, plain, noBracket, _⟩ := reads.starts
  have open_ : eat? "]" (written ++ after) = none := by
    rw [same]
    exact eat?_of_ne rfl plain noBracket _
  rw [items_congr (skip_append all _), items, open_, reads.value separated]
  simp only [Option.bind_eq_bind, Option.bind_some, advance?_of_lt (reads.starts.shorter after),
    others]

/-- An array is read by reading the text behind its bracket. -/
theorem reads_array {inside : List Char} {elements : List Json}
    (read : ∀ rest, items reader (inside ++ ']' :: rest) = some (elements, rest)) :
    Reads reader ('[' :: inside ++ [']']) (.array elements) where
  starts := ⟨'[', _, rfl, by decide, by decide, by decide⟩
  value := by
    intro rest _
    have node : ∀ text, startsWith "node(" ('[' :: text) = false :=
      startsWith_of_ne rfl (by decide) (by decide)
    have expression : ∀ text, eat? "expr(" ('[' :: text) = none :=
      eat?_of_ne rfl (by decide) (by decide)
    have template : ∀ text, eat? "\x60" ('[' :: text) = none :=
      eat?_of_ne rfl (by decide) (by decide)
    have bracket : ∀ text, eat? "[" ('[' :: text) = some text := fun _ => rfl
    have shorter : ∀ text : List Char, text.length < (skip ('[' :: text)).length :=
      length_lt_skip (by decide) []
    rw [List.cons_append, List.cons_append, value, node, expression, template, bracket,
      List.append_assoc, List.singleton_append]
    simp only [Bool.false_eq_true, if_false, advance?_of_lt (shorter _), read,
      Option.bind_eq_bind, Option.bind_some]

/-! ## Compact documents -/

theorem separated_compactItems (items : List Json) (rest : List Char) :
    Separated (compactItems items ++ ']' :: rest) := by
  cases items with
  | nil => exact .bracket rest
  | cons item items =>
      rw [compactItems, List.cons_append, List.cons_append]
      exact .comma _

mutual

/-- The compact text of a document is read back as a value. -/
theorem reads_compactChars (reader : LiteralReader) (document : Json)
    (readsBack : reader.ReadsBack document) :
    Reads reader document.compactChars document := by
  match document with
  | .string text =>
      have read := reads_quoted readsBack text.toList
      rw [String.ofList_toList] at read
      exact read
  | .object members => exact reads_object readsBack
  | .array [] =>
      have inside : ∀ rest, items reader ([] ++ ']' :: rest) = some ([], rest) :=
        items_nil [] (by simp)
      exact reads_array inside
  | .array (first :: others) =>
      have each : ∀ item ∈ first :: others, reader.ReadsBack item :=
        fun item mem => readsBack.element mem
      have inside : ∀ rest, items reader
          (compactChars first ++ compactItems others ++ ']' :: rest) =
            some (first :: others, rest) := by
        intro rest
        have read := reads_compactChars reader first (each first (List.mem_cons_self ..))
        have readRest := items_compactItems reader others
          (fun item mem => each item (List.mem_cons_of_mem first mem)) rest
        rw [List.append_assoc]
        exact items_cons [] (by simp) read (separated_compactItems others rest) readRest
      have array := reads_array inside
      rw [compactChars]
      exact array
  | .null | .boolean _ | .number _ =>
      exact reads_bare readsBack rfl (by simp)

theorem items_compactItems (reader : LiteralReader) (elements : List Json)
    (readsBack : ∀ item ∈ elements, reader.ReadsBack item) (rest : List Char) :
    items reader ((eat? "," (compactItems elements ++ ']' :: rest)).getD
      (compactItems elements ++ ']' :: rest)) = some (elements, rest) := by
  match elements with
  | [] => exact items_nil [] (by simp) rest
  | item :: others =>
      have read := reads_compactChars reader item (readsBack item (List.mem_cons_self ..))
      have readRest := items_compactItems reader others
        (fun other mem => readsBack other (List.mem_cons_of_mem item mem)) rest
      have comma : eat? "," (compactItems (item :: others) ++ ']' :: rest) =
          some (compactChars item ++ (compactItems others ++ ']' :: rest)) := by
        rw [compactItems, List.cons_append, List.cons_append, List.append_assoc]
        rfl
      rw [comma]
      exact items_cons [] (by simp) read (separated_compactItems others rest) readRest

end

end Replay

end Pipewright
