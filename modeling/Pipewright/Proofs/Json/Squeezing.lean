import Pipewright.Proofs.Json.Strings
import Pipewright.Proofs.Json.Words

/-!
# Compact and pretty texts

Squeezing drops the blanks of a text outside its strings.  It turns the pretty text of a
document into the compact one, so documents with one pretty text have one compact text.
-/

namespace Pipewright

namespace Json

open JsonReader

mutual

/-- The text without the blanks outside its strings. -/
def squeeze : List Char → List Char
  | [] => []
  | '"' :: rest => '"' :: squeezeQuoted rest
  | character :: rest =>
      if isBlank character then squeeze rest else character :: squeeze rest

/-- The same for a text that begins inside a string. -/
def squeezeQuoted : List Char → List Char
  | [] => []
  | '"' :: rest => '"' :: squeeze rest
  | '\\' :: escaped :: rest => '\\' :: escaped :: squeezeQuoted rest
  | character :: rest => character :: squeezeQuoted rest

end

theorem squeeze_blank {character : Char} (blank : isBlank character = true) (rest : List Char) :
    squeeze (character :: rest) = squeeze rest := by
  rw [squeeze, if_pos blank]
  rintro rfl
  exact absurd blank (by decide)

theorem squeeze_solid {character : Char} (solid : isBlank character = false)
    (noQuote : character ≠ '"') (rest : List Char) :
    squeeze (character :: rest) = character :: squeeze rest := by
  rw [squeeze, solid]
  · rfl
  · exact noQuote

theorem squeeze_newline (depth : Nat) (rest : List Char) :
    squeeze (newline depth ++ rest) = squeeze rest := by
  have blanks : ∀ count, squeeze (List.replicate count ' ' ++ rest) = squeeze rest := by
    intro count
    induction count with
    | zero => rfl
    | succ count inner =>
        rw [List.replicate_succ, List.cons_append, squeeze_blank (by decide), inner]
  rw [newline, List.cons_append, squeeze_blank (by decide), blanks]

theorem isWordChar_solid {character : Char} (letter : isWordChar character = true) :
    isBlank character = false ∧ character ≠ '"' := by
  constructor
  · rw [Bool.eq_false_iff]
    intro blank
    simp only [isBlank, Bool.or_eq_true, beq_iff_eq] at blank
    rcases blank with ((rfl | rfl) | rfl) | rfl <;> exact absurd letter (by decide)
  · rintro rfl
    exact absurd letter (by decide)

theorem squeeze_word {word : List Char} (letters : ∀ letter ∈ word, isWordChar letter = true)
    (rest : List Char) : squeeze (word ++ rest) = word ++ squeeze rest := by
  induction word with
  | nil => rfl
  | cons first more inner =>
      obtain ⟨letter, later⟩ := List.forall_mem_cons.mp letters
      obtain ⟨solid, noQuote⟩ := isWordChar_solid letter
      rw [List.cons_append, squeeze_solid solid noQuote, inner later, List.cons_append]

/-- Brackets, braces, commas and colons stay. -/
theorem squeeze_mark {mark : Char} (isMark : mark ∈ ['[', ']', '\x7b', '\x7d', ',', ':'])
    (rest : List Char) : squeeze (mark :: rest) = mark :: squeeze rest := by
  simp only [List.mem_cons, List.not_mem_nil, or_false] at isMark
  rcases isMark with rfl | rfl | rfl | rfl | rfl | rfl <;>
    exact squeeze_solid (by decide) (by decide) rest

theorem squeezeQuoted_plain {character : Char} (noQuote : character ≠ '"')
    (noBackslash : character ≠ '\\') (rest : List Char) :
    squeezeQuoted (character :: rest) = character :: squeezeQuoted rest := by
  rw [squeezeQuoted]
  · exact noQuote
  · rintro _ _ rfl
    exact absurd rfl noBackslash

theorem hexDigit_plain : ∀ digit < 16, hexDigit digit ≠ '"' ∧ hexDigit digit ≠ '\\' := by
  decide

theorem squeezeQuoted_escapeChar (character : Char) (rest : List Char) :
    squeezeQuoted (escapeChar character ++ rest) = escapeChar character ++ squeezeQuoted rest := by
  unfold escapeChar
  split
  case h_8 _ noQuote noBackslash _ _ _ _ _ =>
      split
      · next control =>
          obtain ⟨highQuote, highBackslash⟩ := hexDigit_plain (character.toNat / 16) (by omega)
          obtain ⟨lowQuote, lowBackslash⟩ := hexDigit_plain (character.toNat % 16) (by omega)
          simp only [List.cons_append, List.nil_append]
          rw [squeezeQuoted, squeezeQuoted_plain (by decide) (by decide),
            squeezeQuoted_plain (by decide) (by decide),
            squeezeQuoted_plain highQuote highBackslash,
            squeezeQuoted_plain lowQuote lowBackslash]
      · exact squeezeQuoted_plain noQuote noBackslash rest
  all_goals rfl

theorem squeeze_quoteChars (text rest : List Char) :
    squeeze (quoteChars text ++ rest) = quoteChars text ++ squeeze rest := by
  have inside : squeezeQuoted (text.flatMap escapeChar ++ '"' :: rest) =
      text.flatMap escapeChar ++ '"' :: squeeze rest := by
    induction text with
    | nil => rfl
    | cons character text inner =>
        rw [List.flatMap_cons, List.append_assoc, squeezeQuoted_escapeChar, inner,
          List.append_assoc]
  have opened : quoteChars text ++ rest = '"' :: (text.flatMap escapeChar ++ '"' :: rest) := by
    simp [quoteChars]
  rw [opened, squeeze, inside]
  simp [quoteChars]

mutual

theorem squeeze_prettyChars (depth : Nat) : (document : Json) → (rest : List Char) →
    squeeze (document.prettyChars depth ++ rest) = document.compactChars ++ squeeze rest
  | .null, rest => squeeze_word (List.all_eq_true.mp rfl) rest
  | .boolean true, rest => squeeze_word (List.all_eq_true.mp rfl) rest
  | .boolean false, rest => squeeze_word (List.all_eq_true.mp rfl) rest
  | .number value, rest => squeeze_word (isNumeral_number value).isWord.all rest
  | .string text, rest => squeeze_quoteChars text.toList rest
  | .array [], rest => by
      change squeeze ('[' :: ']' :: rest) = '[' :: ']' :: squeeze rest
      rw [squeeze_mark (by decide), squeeze_mark (by decide)]
  | .array (item :: items), rest => by
      have pretty : (Json.array (item :: items)).prettyChars depth ++ rest =
          '[' :: (newline (depth + 1) ++ (item.prettyChars (depth + 1) ++
            (prettyItems (depth + 1) items ++ (newline depth ++ ']' :: rest)))) := by
        simp [prettyChars]
      rw [pretty, squeeze_mark (by decide), squeeze_newline, squeeze_prettyChars _ item,
        squeeze_prettyItems _ items, squeeze_newline, squeeze_mark (by decide)]
      simp [compactChars]
  | .object [], rest => by
      change squeeze ('\x7b' :: '\x7d' :: rest) = '\x7b' :: '\x7d' :: squeeze rest
      rw [squeeze_mark (by decide), squeeze_mark (by decide)]
  | .object ((key, value) :: members), rest => by
      have pretty : (Json.object ((key, value) :: members)).prettyChars depth ++ rest =
          '\x7b' :: (newline (depth + 1) ++ (quoteChars key.toList ++
            ':' :: ' ' :: (value.prettyChars (depth + 1) ++
              (prettyMembers (depth + 1) members ++ (newline depth ++ '\x7d' :: rest))))) := by
        simp [prettyChars]
      rw [pretty, squeeze_mark (by decide), squeeze_newline, squeeze_quoteChars,
        squeeze_mark (by decide), squeeze_blank (by decide), squeeze_prettyChars _ value,
        squeeze_prettyMembers _ members, squeeze_newline, squeeze_mark (by decide)]
      simp [compactChars]

theorem squeeze_prettyItems (depth : Nat) : (items : List Json) → (rest : List Char) →
    squeeze (prettyItems depth items ++ rest) = compactItems items ++ squeeze rest
  | [], _ => rfl
  | item :: items, rest => by
      have pretty : prettyItems depth (item :: items) ++ rest =
          ',' :: (newline depth ++ (item.prettyChars depth ++
            (prettyItems depth items ++ rest))) := by
        simp [prettyItems]
      rw [pretty, squeeze_mark (by decide), squeeze_newline, squeeze_prettyChars _ item,
        squeeze_prettyItems _ items]
      simp [compactItems]

theorem squeeze_prettyMembers (depth : Nat) : (members : Members) → (rest : List Char) →
    squeeze (prettyMembers depth members ++ rest) = compactMembers members ++ squeeze rest
  | [], _ => rfl
  | (key, value) :: members, rest => by
      have pretty : prettyMembers depth ((key, value) :: members) ++ rest =
          ',' :: (newline depth ++ (quoteChars key.toList ++ ':' :: ' ' ::
            (value.prettyChars depth ++ (prettyMembers depth members ++ rest)))) := by
        simp [prettyMembers]
      rw [pretty, squeeze_mark (by decide), squeeze_newline, squeeze_quoteChars,
        squeeze_mark (by decide), squeeze_blank (by decide), squeeze_prettyChars _ value,
        squeeze_prettyMembers _ members]
      simp [compactMembers]

end

/-- Documents with one pretty text have one compact text. -/
theorem compact_eq_of_pretty_eq {left right : Json} (same : left.pretty = right.pretty) :
    left.compact = right.compact := by
  have squeezed : ∀ document : Json,
      squeeze (document.prettyChars 0) = document.compactChars := by
    intro document
    have whole := squeeze_prettyChars 0 document []
    rw [List.append_nil] at whole
    rw [whole]
    exact List.append_nil _
  rw [compact, compact, ← squeezed left, ← squeezed right, String.ofList_injective same]

end Json

end Pipewright
