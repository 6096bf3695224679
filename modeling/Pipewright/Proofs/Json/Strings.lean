import Pipewright.Json.Reader
import Pipewright.Json.Text

/-!
# Quoted strings

The document reader reads every quoted string back, whatever stands behind it.
-/

namespace Pipewright

namespace JsonReader

open Json

theorem hexValue?_hexDigit : ∀ digit < 16, hexValue? (hexDigit digit) = some digit := by
  decide

/-- A control character is read back from its hexadecimal escape. -/
theorem readEscape_control {character : Char} (control : character.toNat < 32)
    (rest : List Char) :
    readEscape ('u' :: '0' :: '0' :: hexDigit (character.toNat / 16) ::
      hexDigit (character.toNat % 16) :: rest) = .ok (character, rest) := by
  have zero : hexValue? '0' = some 0 := by decide
  have high := hexValue?_hexDigit (character.toNat / 16) (by omega)
  have low := hexValue?_hexDigit (character.toNat % 16) (by omega)
  have unit : readHexUnit ('0' :: '0' :: hexDigit (character.toNat / 16) ::
      hexDigit (character.toNat % 16) :: rest) = .ok (character.toNat, rest) := by
    have digits : ((0 * 16 + 0) * 16 + character.toNat / 16) * 16 + character.toNat % 16 =
        character.toNat := by omega
    unfold readHexUnit
    simp only [List.take, List.mapM_cons, List.mapM_nil, zero, high, low, Option.bind_eq_bind,
      Option.bind_some, Option.pure_def, List.drop, digits]
  change readHexEscape _ = _
  unfold readHexEscape
  rw [unit]
  simp only [bind, Except.bind]
  rw [if_neg (by omega), if_neg (by omega), Char.ofNat_toNat]

/-- One turn of the loop reads one character of the string. -/
theorem readStringLoop_escapeChar (character : Char) (fuel : Nat) (taken rest : List Char) :
    readStringLoop (fuel + 1) taken (escapeChar character ++ rest) =
      readStringLoop fuel (character :: taken) rest := by
  unfold escapeChar
  split
  case h_8 other noQuote noBackslash _ _ _ _ _ =>
      split
      · next control =>
          have read := readEscape_control control rest
          simp only [List.cons_append, List.nil_append]
          rw [readStringLoop]
          simp only [read]
      · next printable =>
          simp only [List.cons_append, List.nil_append]
          rw [readStringLoop, if_neg printable]
          · exact noQuote
          · exact noBackslash
  all_goals rfl

theorem readStringLoop_quoted (text taken rest : List Char) {fuel : Nat}
    (enough : text.length < fuel) :
    readStringLoop fuel taken (text.flatMap escapeChar ++ '"' :: rest) =
      .ok (String.ofList (taken.reverse ++ text), rest) := by
  induction text generalizing taken fuel with
  | nil =>
      obtain ⟨fuel, rfl⟩ : ∃ fewer, fuel = fewer + 1 := ⟨fuel - 1, by simp at enough; omega⟩
      rw [List.append_nil]
      rfl
  | cons character text inner =>
      obtain ⟨fuel, rfl⟩ : ∃ fewer, fuel = fewer + 1 := ⟨fuel - 1, by omega⟩
      rw [List.flatMap_cons, List.append_assoc, readStringLoop_escapeChar,
        inner _ (by simpa using enough)]
      simp

theorem length_le_flatMap_escapeChar (text : List Char) :
    text.length ≤ (text.flatMap escapeChar).length := by
  have one : ∀ character, 1 ≤ (escapeChar character).length := by
    intro character
    unfold escapeChar
    repeat' split
    all_goals simp
  induction text with
  | nil => exact Nat.le_refl _
  | cons character text inner =>
      have first := one character
      rw [List.flatMap_cons, List.length_cons, List.length_append]
      omega

theorem readString_quoted (text rest : List Char) :
    readString (text.flatMap escapeChar ++ '"' :: rest) = .ok (String.ofList text, rest) := by
  have shorter := length_le_flatMap_escapeChar text
  have enough : text.length < (text.flatMap escapeChar ++ '"' :: rest).length + 1 := by
    rw [List.length_append]
    omega
  exact readStringLoop_quoted text [] rest enough

/-- Every quoted string is read back. -/
theorem readValue_quoteChars (depth : Nat) (text rest : List Char) :
    readValue depth (quoteChars text ++ rest) = .ok (.string (String.ofList text), rest) := by
  have opened : skipBlanks (quoteChars text ++ rest) =
      '"' :: (text.flatMap escapeChar ++ '"' :: rest) := by
    change skipBlanks ('"' :: (text.flatMap escapeChar ++ ['"'] ++ rest)) = _
    rw [List.append_assoc]
    rfl
  rw [readValue.eq_def]
  simp only [opened, readString_quoted]
  rfl

theorem readMembers_member (read : List Char → Outcome Json) (fuel : Nat) (key : List Char)
    {value : Json} {written rest : List Char}
    (readsValue : read (written ++ '\x7d' :: rest) = .ok (value, '\x7d' :: rest)) :
    readMembers read (fuel + 2) true [] (quoteChars key ++ ':' :: (written ++ '\x7d' :: rest)) =
      .ok (.object [(String.ofList key, value)], rest) := by
  have opened : skipBlanks (quoteChars key ++ ':' :: (written ++ '\x7d' :: rest)) =
      '"' :: (key.flatMap escapeChar ++ '"' :: ':' :: (written ++ '\x7d' :: rest)) := by
    simp [quoteChars, skipBlanks, isBlank]
  have colon : ∀ text, readMemberValue read (':' :: text) = read text := fun _ => rfl
  have closed : ∀ taken, readMembers read (fuel + 1) false taken ('\x7d' :: rest) =
      .ok (.object (entriesOf taken.reverse), rest) := by
    intro taken
    rw [readMembers]
    rfl
  have next : readMembers.readNext read (fuel + 1) []
      (key.flatMap escapeChar ++ '"' :: ':' :: (written ++ '\x7d' :: rest)) =
        .ok (.object [(String.ofList key, value)], rest) := by
    simp only [readMembers.readNext, readString_quoted, colon, readsValue, closed]
    rfl
  rw [readMembers]
  simp only [opened]
  exact next

theorem readValue_member (depth : Nat) (key text : String) (rest : List Char) :
    readValue (depth + 1) ((Json.object [(key, .string text)]).compactChars ++ rest) =
      .ok (.object [(key, .string text)], rest) := by
  have opened : skipBlanks ((Json.object [(key, .string text)]).compactChars ++ rest) =
      '\x7b' :: (quoteChars key.toList ++ ':' :: (quoteChars text.toList ++ '\x7d' :: rest)) := by
    simp [compactChars, compactMembers, skipBlanks, isBlank]
  have length : (quoteChars key.toList ++
      ':' :: (quoteChars text.toList ++ '\x7d' :: rest)).length =
        (key.toList.flatMap escapeChar ++
          '"' :: ':' :: (quoteChars text.toList ++ '\x7d' :: rest)).length + 1 := by
    simp [quoteChars]
  have member := readMembers_member (readValue depth) (key.toList.flatMap escapeChar ++
      '"' :: ':' :: (quoteChars text.toList ++ '\x7d' :: rest)).length key.toList
    (readValue_quoteChars depth text.toList ('\x7d' :: rest))
  rw [String.ofList_toList, String.ofList_toList] at member
  rw [readValue.eq_def]
  simp only [opened, length]
  exact member

end JsonReader

end Pipewright
