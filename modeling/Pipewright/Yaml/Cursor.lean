/-!
# Positions in a text

A cursor is the rest of a text together with the place that has been reached.
Line breaks are a carriage return, a line feed, the two together, a next-line
character and the line and paragraph separators.
-/

namespace Pipewright

namespace Yaml

/-- A place in a text, counted in characters; lines and columns start at zero. -/
structure Place where
  offset : Nat
  line : Nat
  column : Nat
deriving DecidableEq, Repr, Inhabited

namespace Place

/-- The beginning of a text. -/
def start : Place := ⟨0, 0, 0⟩

/-- Is this the first column of the first line? -/
def isStart (place : Place) : Bool :=
  place.line == 0 && place.column == 0

/-- Do two places share line and column? -/
def same (left right : Place) : Bool :=
  left.line == right.line && left.column == right.column

/-- The place `count` characters further on the same line. -/
def advance (place : Place) (count : Nat) : Place :=
  ⟨place.offset + count, place.line, place.column + count⟩

/-- The first column of the next line, behind a break of `count` characters. -/
def nextLine (place : Place) (count : Nat) : Place :=
  ⟨place.offset + count, place.line + 1, 0⟩

/-- A place in words, with lines and columns from one. -/
def text (place : Place) : String :=
  "line " ++ toString (place.line + 1) ++ " column " ++ toString (place.column + 1)

/-- The words that are added for a place; the beginning of a text is left out. -/
def suffix (place : Place) : String :=
  if place.isStart then "" else " at " ++ place.text

end Place

/-! ## Characters -/

/-- Is this a space or a tab? -/
def isBlank (character : Char) : Bool :=
  character == ' ' || character == '\t'

/-- Does a line end at this character? -/
def isBreak (character : Char) : Bool :=
  character == '\n' || character == '\r' || character.toNat == 0x85 ||
    character.toNat == 0x2028 || character.toNat == 0x2029

/-- Is this a blank or a line break? -/
def isBlankOrBreak (character : Char) : Bool :=
  isBlank character || isBreak character

/-- Is this a letter, digit, underscore or hyphen of ASCII? -/
def isWordCharacter (character : Char) : Bool :=
  character.isAlphanum || character == '_' || character == '-'

/-- Does a text begin with a blank or a line break, or is it at its end? -/
def startsBlank : List Char → Bool
  | [] => true
  | character :: _ => isBlankOrBreak character

/-- Does a text begin with a line break, or is it at its end? -/
def startsBreak : List Char → Bool
  | [] => true
  | character :: _ => isBreak character

/-! ## Cursors -/

/-- The rest of a text and the place where it begins. -/
structure Cursor where
  rest : List Char
  place : Place
deriving Repr, Inhabited

namespace Cursor

/-- The beginning of a text. -/
def ofText (text : List Char) : Cursor := ⟨text, Place.start⟩

/-- Is the end of the text reached? -/
def atEnd (cursor : Cursor) : Bool := cursor.rest.isEmpty

/-- The next character. -/
def next? (cursor : Cursor) : Option Char := cursor.rest.head?

/-- The character `count` places ahead. -/
def ahead? (cursor : Cursor) (count : Nat) : Option Char := cursor.rest[count]?

/-- Is this the next character? -/
def sees (cursor : Cursor) (character : Char) : Bool :=
  cursor.next? == some character

/-- Go on by some characters of the line. -/
def skip (cursor : Cursor) (count : Nat) : Cursor :=
  ⟨cursor.rest.drop count, cursor.place.advance count⟩

/-- Go on behind the leading characters of a class, none of which ends a line. -/
def skipWhile (cursor : Cursor) (holds : Char → Bool) : Cursor :=
  cursor.skip (cursor.rest.takeWhile holds).length

/-- The leading characters of a class, none of which ends a line, and the cursor
behind them. -/
def span (cursor : Cursor) (holds : Char → Bool) : List Char × Cursor :=
  (cursor.rest.takeWhile holds, cursor.skipWhile holds)

/-- Go on behind the rest of the line, up to its break. -/
def skipLine (cursor : Cursor) : Cursor :=
  cursor.skipWhile fun character => !isBreak character

/-- Go on behind a comment, if there is one. -/
def skipComment (cursor : Cursor) : Cursor :=
  if cursor.sees '#' then cursor.skipLine else cursor

/-- Take a line break: what it counts for in a scalar, and the cursor behind it.
Every break counts as a line feed but for the two separators. -/
def takeBreak (cursor : Cursor) : List Char × Cursor :=
  match cursor.rest with
  | '\r' :: '\n' :: rest => (['\n'], ⟨rest, cursor.place.nextLine 2⟩)
  | character :: rest =>
      if isBreak character then
        (if character.toNat == 0x2028 || character.toNat == 0x2029 then [character] else ['\n'],
          ⟨rest, cursor.place.nextLine 1⟩)
      else ([], cursor)
  | [] => ([], cursor)

/-- Go on behind a line break, if there is one. -/
def skipBreak (cursor : Cursor) : Cursor := cursor.takeBreak.2

/-- Is there a marker between documents: three hyphens or three dots at the
beginning of a line, with a blank behind them? -/
def atDocumentMarker (cursor : Cursor) : Bool :=
  cursor.place.column == 0 &&
    match cursor.rest with
    | '-' :: '-' :: '-' :: rest => startsBlank rest
    | '.' :: '.' :: '.' :: rest => startsBlank rest
    | _ => false

end Cursor

end Yaml

end Pipewright
