import Pipewright.Json.Basic
import Pipewright.Number.Shortest

/-!
# Written documents

The compact text of a document has no blanks; the pretty text puts every member
and element on a line of its own, two spaces deeper than its container.  Both
write strings and numbers alike.
-/

namespace Pipewright

namespace Json

/-- Doubles are written positionally while the leading digit's power of ten lies
between `-5` and `15`. -/
def realLayout : DecimalLayout := ⟨-5, 15⟩

/-- A lower-case hexadecimal digit. -/
def hexDigit (digit : Nat) : Char :=
  (Nat.digitChar digit)

/-- One character of a quoted string.  Quotes, backslashes and control
characters are escaped, with a short form where there is one. -/
def escapeChar (character : Char) : List Char :=
  match character with
  | '"' => ['\\', '"']
  | '\\' => ['\\', '\\']
  | '\x08' => ['\\', 'b']
  | '\x0c' => ['\\', 'f']
  | '\n' => ['\\', 'n']
  | '\r' => ['\\', 'r']
  | '\t' => ['\\', 't']
  | other =>
      if other.toNat < 32 then
        ['\\', 'u', '0', '0', hexDigit (other.toNat / 16), hexDigit (other.toNat % 16)]
      else [other]

/-- A string between double quotes. -/
def quoteChars (text : List Char) : List Char :=
  '"' :: text.flatMap escapeChar ++ ['"']

/-- A string between double quotes. -/
def quote (text : String) : String :=
  String.ofList (quoteChars text.toList)

end Json

/-- The text of a number. -/
def Number.chars : Number → List Char
  | .integer value => (toString value).toList
  | .real value => Json.realLayout.write value

namespace Json

mutual

/-- The compact text of a document. -/
def compactChars : Json → List Char
  | .null => ['n', 'u', 'l', 'l']
  | .boolean true => ['t', 'r', 'u', 'e']
  | .boolean false => ['f', 'a', 'l', 's', 'e']
  | .number value => value.chars
  | .string text => quoteChars text.toList
  | .array [] => ['[', ']']
  | .array (first :: rest) =>
      '[' :: compactChars first ++ compactItems rest ++ [']']
  | .object [] => ['{', '}']
  | .object ((key, value) :: rest) =>
      '{' :: quoteChars key.toList ++ ':' :: compactChars value ++
        compactMembers rest ++ ['}']

/-- The elements after the first one, each behind a comma. -/
def compactItems : List Json → List Char
  | [] => []
  | item :: rest => ',' :: compactChars item ++ compactItems rest

/-- The members after the first one, each behind a comma. -/
def compactMembers : List (String × Json) → List Char
  | [] => []
  | (key, value) :: rest =>
      ',' :: quoteChars key.toList ++ ':' :: compactChars value ++ compactMembers rest

end

/-- A line break followed by the indentation of the given depth. -/
def newline (depth : Nat) : List Char :=
  '\n' :: List.replicate (2 * depth) ' '

mutual

/-- The pretty text of a document that stands at the given depth. -/
def prettyChars (depth : Nat) : Json → List Char
  | .null => ['n', 'u', 'l', 'l']
  | .boolean true => ['t', 'r', 'u', 'e']
  | .boolean false => ['f', 'a', 'l', 's', 'e']
  | .number value => value.chars
  | .string text => quoteChars text.toList
  | .array [] => ['[', ']']
  | .array (first :: rest) =>
      '[' :: newline (depth + 1) ++ prettyChars (depth + 1) first ++
        prettyItems (depth + 1) rest ++ newline depth ++ [']']
  | .object [] => ['{', '}']
  | .object ((key, value) :: rest) =>
      '{' :: newline (depth + 1) ++ quoteChars key.toList ++
        ':' :: ' ' :: prettyChars (depth + 1) value ++
        prettyMembers (depth + 1) rest ++ newline depth ++ ['}']

/-- The elements after the first one, each on its own line behind a comma. -/
def prettyItems (depth : Nat) : List Json → List Char
  | [] => []
  | item :: rest =>
      ',' :: newline depth ++ prettyChars depth item ++ prettyItems depth rest

/-- The members after the first one, each on its own line behind a comma. -/
def prettyMembers (depth : Nat) : List (String × Json) → List Char
  | [] => []
  | (key, value) :: rest =>
      ',' :: newline depth ++ quoteChars key.toList ++
        ':' :: ' ' :: prettyChars depth value ++ prettyMembers depth rest

end

/-- The compact text of a document. -/
def compact (document : Json) : String :=
  String.ofList document.compactChars

/-- The pretty text of a document. -/
def pretty (document : Json) : String :=
  String.ofList (document.prettyChars 0)

end Json

end Pipewright
