import Pipewright.Unicode.Category
import Pipewright.Unicode.Property

/-!
# Visible quotation

Messages quote texts so that every character can be told from the others:
characters that cannot be seen, or that would join the one before them, are
written by their numbers.
-/

namespace Pipewright

namespace Visible

/-- The categories of characters that cannot be seen. -/
def hiddenCategories : List String :=
  ["Cc", "Cf", "Cs", "Co", "Cn", "Zl", "Zp", "Zs"]

/-- Can the character be seen? -/
def isVisible (character : Char) : Bool :=
  character == ' ' || !hiddenCategories.contains (generalCategory character)

/-- Does the character join the one before it? -/
def joins (character : Char) : Bool :=
  CharacterTable.holds CharacterProperty.graphemeExtend character

/-- A character by its number in hexadecimal digits. -/
def numbered (character : Char) : List Char :=
  ['\\', 'u', '\x7b'] ++ Nat.toDigits 16 character.toNat ++ ['\x7d']

/-- One character of a quoted text. -/
def escapeChar (character : Char) : List Char :=
  match character with
  | '\x00' => ['\\', '0']
  | '\t' => ['\\', 't']
  | '\r' => ['\\', 'r']
  | '\n' => ['\\', 'n']
  | '\\' => ['\\', '\\']
  | '"' => ['\\', '"']
  | other =>
      if other.toNat < 0x7F && 0x20 ≤ other.toNat then [other]
      else if joins other || !isVisible other then numbered other
      else [other]

/-- A text between double quotes. -/
def quote (text : String) : String :=
  String.ofList ('"' :: text.toList.flatMap escapeChar ++ ['"'])

end Visible

end Pipewright
