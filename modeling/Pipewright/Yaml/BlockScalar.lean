import Pipewright.Yaml.Fault

/-!
# Block scalars

A block scalar has a header and indented lines.  A literal scalar keeps its line
breaks; a folded one turns a break between two lines that are not indented
further into a space.  The header says what becomes of the breaks at the end.
-/

namespace Pipewright

namespace Yaml

namespace BlockScalar

/-- What becomes of the line breaks at the end of a scalar: the last one is
dropped too, only that one is kept, or all are. -/
inductive Chomping where
  | strip
  | clip
  | keep
deriving DecidableEq, Repr

/-- The header of a scalar: its chomping and its indentation, if given. -/
structure Header where
  chomping : Chomping
  increment : Option Nat

/-- Read a chomping indicator. -/
def readChomping (cursor : Cursor) : Option (Chomping × Cursor) :=
  match cursor.next? with
  | some '+' => some (.keep, cursor.skip 1)
  | some '-' => some (.strip, cursor.skip 1)
  | _ => none

/-- Read an indentation indicator. -/
def readIncrement (start : Place) (cursor : Cursor) :
    Except SyntaxFault (Option Nat × Cursor) :=
  match cursor.next? with
  | some digit =>
      if digit == '0' then .error (.within .blockScalar start .indentationZero cursor.place)
      else if digit.isDigit then .ok (some (digit.toNat - 48), cursor.skip 1)
      else .ok (none, cursor)
  | none => .ok (none, cursor)

/-- Read the indicators of a header, which may come in either order. -/
def readIndicators (start : Place) (cursor : Cursor) :
    Except SyntaxFault (Header × Cursor) := do
  match readChomping cursor with
  | some (chomping, behind) =>
      let (increment, behind) ← readIncrement start behind
      return (⟨chomping, increment⟩, behind)
  | none =>
      let (increment, behind) ← readIncrement start cursor
      match increment, readChomping behind with
      | some _, some (chomping, behind) => return (⟨chomping, increment⟩, behind)
      | _, _ => return (⟨.clip, increment⟩, behind)

/-- Read a header up to the beginning of the next line. -/
def readHeader (start : Place) (cursor : Cursor) : Except SyntaxFault (Header × Cursor) := do
  let (header, behind) ← readIndicators start cursor
  let behind := (behind.skipWhile isBlank).skipComment
  if startsBreak behind.rest then return (header, behind.skipBreak)
  else .error (.within .blockScalar start .lineEndMissing behind.place)

/-- Line breaks between two lines of a scalar, the widest indentation among
them, and the cursor at the next line. -/
structure Breaks where
  text : List Char
  widest : Nat
  cursor : Cursor

/-- The number of spaces that count as indentation at a place. -/
def indentationOf (indent : Option Nat) (cursor : Cursor) : Nat :=
  let spaces := (cursor.rest.takeWhile (· == ' ')).length
  match indent with
  | some known => min spaces (known - cursor.place.column)
  | none => spaces

/-- Is a place to the left of the indentation, or is that not known yet? -/
def isLeftOf (indent : Option Nat) (place : Place) : Bool :=
  match indent with
  | some known => place.column < known
  | none => true

/-- Skip indentation and empty lines.  Every turn takes a line break, so the
length of the text bounds the turns. -/
def readBreaks (indent : Option Nat) (start : Place) :
    Nat → List Char → Nat → Cursor → Except SyntaxFault Breaks
  | 0, text, widest, cursor => .ok ⟨text, widest, cursor⟩
  | fuel + 1, text, widest, cursor =>
      let cursor := cursor.skip (indentationOf indent cursor)
      let widest := max widest cursor.place.column
      if isLeftOf indent cursor.place && cursor.sees '\t' then
        .error (.within .blockScalar start .tabForIndentation cursor.place)
      else
        match cursor.takeBreak with
        | ([], _) => .ok ⟨text, widest, cursor⟩
        | (taken, behind) => readBreaks indent start fuel (text ++ taken) widest behind

/-- Skip indentation and empty lines. -/
def breaksAt (indent : Option Nat) (start : Place) (cursor : Cursor) :
    Except SyntaxFault Breaks :=
  readBreaks indent start (cursor.rest.length + 1) [] 0 cursor

/-- What has been read of a scalar: the text up to the last line, the break
behind that line and the breaks of the empty lines after it. -/
structure Body where
  text : List Char
  lineBreak : List Char
  emptyLines : List Char

/-- The text up to the next line, which begins with a blank or not. -/
def Body.joined (body : Body) (isFolded previousBlank nextBlank : Bool) : List Char :=
  if isFolded && body.lineBreak == ['\n'] && !previousBlank && !nextBlank then
    body.text ++ if body.emptyLines.isEmpty then [' '] else body.emptyLines
  else body.text ++ body.lineBreak ++ body.emptyLines

/-- The text of a whole scalar. -/
def Body.chomped (body : Body) : Chomping → List Char
  | .strip => body.text
  | .clip => body.text ++ body.lineBreak
  | .keep => body.text ++ body.lineBreak ++ body.emptyLines

/-- Read the lines of a scalar.  Every turn takes a line, so the length of the
text bounds the turns. -/
def readLines (isFolded : Bool) (indent : Nat) (start : Place) :
    Nat → Bool → Body → Cursor → Except SyntaxFault (Body × Cursor)
  | 0, _, body, cursor => .ok (body, cursor)
  | fuel + 1, previousBlank, body, cursor =>
      if cursor.place.column == indent && !cursor.atEnd then
        let nextBlank := (cursor.next?.map isBlank).getD false
        let (line, behind) := cursor.span fun character => !isBreak character
        let (lineBreak, behind) := behind.takeBreak
        match breaksAt (some indent) start behind with
        | .error fault => .error fault
        | .ok breaks =>
            readLines isFolded indent start fuel nextBlank
              ⟨body.joined isFolded previousBlank nextBlank ++ line, lineBreak, breaks.text⟩
              breaks.cursor
      else .ok (body, cursor)

/-- Read a block scalar from its indicator; `indent` is the column of the
collection around it, if there is one. -/
def read (isFolded : Bool) (indent : Option Nat) (cursor : Cursor) :
    Except SyntaxFault (List Char × Cursor) := do
  let start := cursor.place
  let (header, behind) ← readHeader start (cursor.skip 1)
  let known := header.increment.map (indent.getD 0 + ·)
  let breaks ← breaksAt known start behind
  let margin := known.getD (max breaks.widest (max 1 ((indent.map (· + 1)).getD 0)))
  let (body, behind) ← readLines isFolded margin start (breaks.cursor.rest.length + 1) false
    ⟨[], [], breaks.text⟩ breaks.cursor
  return (body.chomped header.chomping, behind)

end BlockScalar

end Yaml

end Pipewright
