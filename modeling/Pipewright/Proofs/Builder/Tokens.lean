import Pipewright.Builder.Replay
import Pipewright.Proofs.Builder.Layout
import Pipewright.Proofs.Json.Words

/-!
# Tokens of builder source

Which token a text starts with, and what it means to read a literal back.  Readings
are stated with the text behind what is read, so that they can be put together.
-/

namespace Pipewright

namespace Json

/-- The values inside a document, itself included. -/
inductive PartOf (value : Json) : Json → Prop where
  | whole : PartOf value value
  | element {item : Json} {items : List Json} :
      item ∈ items → PartOf value item → PartOf value (.array items)
  | member {key : String} {content : Json} {members : Members} :
      (key, content) ∈ members → PartOf value content → PartOf value (.object members)

end Json

/-- The reader reads back the literals that a document is written with: every string,
the objects of the document, and its scalars. -/
structure LiteralReader.ReadsBack (reader : LiteralReader) (document : Json) : Prop where
  string : ∀ text rest,
    reader.delimited (Json.quoteChars text ++ rest) = some (.string (String.ofList text), rest)
  object : ∀ members rest, (Json.object members).PartOf document →
    reader.delimited ((Json.object members).compactChars ++ rest) = some (.object members, rest)
  scalar : ∀ value : Json, value.isScalar = true → (∀ text, value ≠ .string text) →
    value.PartOf document → reader.bare value.compactChars = some value

namespace LiteralReader.ReadsBack

variable {reader : LiteralReader}

theorem element {item : Json} {items : List Json} (readsBack : reader.ReadsBack (.array items))
    (mem : item ∈ items) : reader.ReadsBack item where
  string := readsBack.string
  object members rest part := readsBack.object members rest (.element mem part)
  scalar value isScalar notString part :=
    readsBack.scalar value isScalar notString (.element mem part)

theorem member {key : String} {content : Json} {members : Members}
    (readsBack : reader.ReadsBack (.object members)) (mem : (key, content) ∈ members) :
    reader.ReadsBack content where
  string := readsBack.string
  object members rest part := readsBack.object members rest (.member mem part)
  scalar value isScalar notString part :=
    readsBack.scalar value isScalar notString (.member mem part)

end LiteralReader.ReadsBack

namespace Replay

/-! ## Blanks -/

variable {text text' rest : List Char} {character : Char} {token : String}

theorem skip_of_head (plain : isBlank character = false) (rest : List Char) :
    skip (character :: rest) = character :: rest := by
  rw [skip, List.dropWhile_cons_of_neg (by rw [plain]; decide)]

theorem skip_append {blanks : List Char} (all : ∀ blank ∈ blanks, isBlank blank = true)
    (rest : List Char) : skip (blanks ++ rest) = skip rest :=
  List.dropWhile_append_of_pos all

theorem isBlank_of_mem_newLine {level : Nat} :
    ∀ blank ∈ Layout.newLine level, isBlank blank = true := by
  intro blank mem
  rcases List.mem_cons.mp mem with rfl | space
  · decide
  · rw [(List.mem_replicate.mp space).2]
    decide

theorem skip_newLine (level : Nat) (rest : List Char) :
    skip (Layout.newLine level ++ rest) = skip rest :=
  skip_append isBlank_of_mem_newLine rest

theorem eat?_congr (same : skip text = skip text') : eat? token text = eat? token text' := by
  rw [eat?, eat?, startsWith, startsWith, same]

/-! ## Progress -/

theorem advance?_of_lt (shorter : rest.length < text.length) :
    advance? text rest = some ⟨rest, shorter⟩ :=
  dif_pos shorter

theorem length_lt_skip (plain : isBlank character = false) (more rest : List Char) :
    rest.length < (skip (character :: (more ++ rest))).length := by
  rw [skip_of_head plain, List.length_cons, List.length_append]
  omega

/-- A token that is passed leaves no more text than there was. -/
theorem eat?_getD_length_le (token : String) (text : List Char) :
    ((eat? token text).getD text).length ≤ text.length := by
  unfold eat?
  split
  · rw [Option.getD_some, List.length_drop]
    have trimmed := skip_length_le text
    omega
  · exact Nat.le_refl _

/-! ## Tokens -/

theorem startsWith_of_ne {first : Char} {more : List Char} (starts : token.toList = first :: more)
    (plain : isBlank character = false) (different : character ≠ first) (rest : List Char) :
    startsWith token (character :: rest) = false := by
  rw [startsWith, starts, skip_of_head plain, List.isPrefixOf_cons_cons]
  simp [different.symm]

theorem eat?_of_ne {first : Char} {more : List Char} (starts : token.toList = first :: more)
    (plain : isBlank character = false) (different : character ≠ first) (rest : List Char) :
    eat? token (character :: rest) = none := by
  rw [eat?, startsWith_of_ne starts plain different]
  rfl

/-- The name of a function does not come before a word that ends elsewhere. -/
theorem startsWith_word {word : List Char} (isWord : Json.IsWord word) (name : List Char)
    (call : token.toList = name ++ ['(']) (named : ∀ letter ∈ name, Json.isWordChar letter = true)
    {next : Char} (ends : Json.isWordChar next = false) (different : next ≠ '(')
    (plain : ∀ letter ∈ word, isBlank letter = false) (rest : List Char) :
    startsWith token (word ++ next :: rest) = false := by
  have stays : skip (word ++ next :: rest) = word ++ next :: rest := by
    cases word with
    | nil => exact absurd rfl isWord.nonempty
    | cons first more => exact skip_of_head (plain first (List.mem_cons_self ..)) _
  rw [startsWith, stays, call, Bool.eq_false_iff]
  intro comes
  obtain ⟨behind, same⟩ := List.isPrefixOf_iff_prefix.mp comes
  -- behind the letters stand two different characters
  have ended := congrArg (List.dropWhile Json.isWordChar) same
  rw [List.append_assoc, List.dropWhile_append_of_pos named,
    List.dropWhile_append_of_pos isWord.all, List.dropWhile_cons_of_neg (by rw [ends]; decide)]
    at ended
  injection ended with first _
  exact different first.symm

end Replay

end Pipewright
