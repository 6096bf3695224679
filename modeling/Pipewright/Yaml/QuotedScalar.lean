import Pipewright.Number.Digit
import Pipewright.Yaml.Gap

/-!
# Quoted scalars

Between single quotes two quotes stand for one.  Between double quotes a
backslash begins an escape, and at the end of a line it joins the next line
without a space.
-/

namespace Pipewright

namespace Yaml

namespace QuotedScalar

/-- What an escape stands for. -/
inductive Escape where
  | character (value : Char)
  | numbered (digits : Nat)

/-- The meaning of the character behind a backslash. -/
def escape? (character : Char) : Option Escape :=
  match character with
  | '0' => some (.character '\x00')
  | 'a' => some (.character '\x07')
  | 'b' => some (.character '\x08')
  | 't' => some (.character '\t')
  | '\t' => some (.character '\t')
  | 'n' => some (.character '\n')
  | 'v' => some (.character '\x0b')
  | 'f' => some (.character '\x0c')
  | 'r' => some (.character '\r')
  | 'e' => some (.character '\x1b')
  | ' ' => some (.character ' ')
  | '"' => some (.character '"')
  | '/' => some (.character '/')
  | '\\' => some (.character '\\')
  | 'N' => some (.character '\u0085')
  | '_' => some (.character '\u00a0')
  | 'L' => some (.character '\u2028')
  | 'P' => some (.character '\u2029')
  | 'x' => some (.numbered 2)
  | 'u' => some (.numbered 4)
  | 'U' => some (.numbered 8)
  | _ => none

/-- The character behind a backslash, at `cursor`, and the cursor behind the
escape. -/
def readEscape (start : Place) (cursor : Cursor) : Except SyntaxFault (Char × Cursor) :=
  let fault (problem : Problem) : Except SyntaxFault (Char × Cursor) :=
    .error (.within .escape start problem cursor.place)
  match (cursor.ahead? 1).bind escape? with
  | none => fault .escapeUnknown
  | some (.character value) => .ok (value, cursor.skip 2)
  | some (.numbered count) =>
      let behind := cursor.skip 2
      let digits := behind.rest.take count
      match numberOfDigits? 16 digits with
      | none => .error (.within .escape start .escapeDigitsMissing behind.place)
      | some code =>
          if digits.length < count then
            .error (.within .escape start .escapeDigitsMissing behind.place)
          else if code < 0x110000 ∧ ¬(0xD800 ≤ code ∧ code ≤ 0xDFFF) then
            .ok (Char.ofNat code, behind.skip count)
          else .error (.within .escape start .escapeInvalid behind.place)

/-- A run without gaps that has been read; it may end with an escaped line
break. -/
structure Run where
  text : List Char
  joinsLine : Bool
  cursor : Cursor

/-- Read up to a gap, the closing quote or an escaped line break; `taken` holds
what has been read, last character first.  Every turn takes a character, so the
length of the text bounds the turns. -/
def readRun (isSingle : Bool) (start : Place) :
    Nat → List Char → Cursor → Except SyntaxFault Run
  | 0, taken, cursor => .ok ⟨taken.reverse, false, cursor⟩
  | fuel + 1, taken, cursor =>
      match cursor.rest with
      | [] => .ok ⟨taken.reverse, false, cursor⟩
      | character :: rest =>
          if isBlankOrBreak character then .ok ⟨taken.reverse, false, cursor⟩
          else if isSingle && character == '\'' then
            if rest.head? == some '\'' then
              readRun isSingle start fuel ('\'' :: taken) (cursor.skip 2)
            else .ok ⟨taken.reverse, false, cursor⟩
          else if !isSingle && character == '"' then .ok ⟨taken.reverse, false, cursor⟩
          else if !isSingle && character == '\\' then
            if (rest.head?.map isBreak).getD false then
              .ok ⟨taken.reverse, true, (cursor.skip 1).skipBreak⟩
            else
              match readEscape start cursor with
              | .ok (value, behind) => readRun isSingle start fuel (value :: taken) behind
              | .error fault => .error fault
          else readRun isSingle start fuel (character :: taken) (cursor.skip 1)

/-- Read runs and the gaps between them up to the closing quote.  Every turn but
the last takes a gap, so the length of the text bounds the turns. -/
def readLoop (isSingle : Bool) (start : Place) :
    Nat → List Char → Cursor → Except SyntaxFault (List Char × Cursor)
  | 0, _, cursor => .error (.within .quotedScalar start .endOfText cursor.place)
  | fuel + 1, text, cursor =>
      if cursor.atDocumentMarker then
        .error (.within .quotedScalar start .documentMarker cursor.place)
      else if cursor.atEnd then
        .error (.within .quotedScalar start .endOfText cursor.place)
      else
        match readRun isSingle start cursor.rest.length [] cursor with
        | .error fault => .error fault
        | .ok run =>
            let text := text ++ run.text
            if run.cursor.sees (if isSingle then '\'' else '"') then
              .ok (text, run.cursor.skip 1)
            else
              match Gap.read 0 (if run.joinsLine then Gap.escaped else Gap.empty) run.cursor with
              | .error place => .error (.within .quotedScalar start .tabInIndentation place)
              | .ok (gap, behind) =>
                  readLoop isSingle start fuel
                    (text ++ if run.joinsLine then gap.breaks else gap.folded) behind

/-- Read a quoted scalar from its opening quote. -/
def read (isSingle : Bool) (cursor : Cursor) : Except SyntaxFault (List Char × Cursor) :=
  readLoop isSingle cursor.place (cursor.rest.length + 1) [] (cursor.skip 1)

end QuotedScalar

end Yaml

end Pipewright
