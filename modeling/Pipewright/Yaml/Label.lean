import Pipewright.Number.Digit
import Pipewright.Yaml.Token

/-!
# Anchors, tags and directives

An anchor or alias is a word.  A tag has a handle and a suffix, or stands as a
whole between angle brackets.  A directive fills a line at the top of a document
and states a version or what a handle is short for.
-/

namespace Pipewright

namespace Yaml

/-! ## Anchors and aliases -/

/-- May this text follow an anchor or an alias? -/
def endsLabel (text : List Char) : Bool :=
  match text with
  | [] => true
  | character :: _ => isBlankOrBreak character || "?:,]\x7d%@\x60".toList.contains character

/-- Read the name of an anchor or alias from its indicator. -/
def readLabel (construct : Construct) (cursor : Cursor) :
    Except SyntaxFault (String × Cursor) :=
  let (name, behind) := (cursor.skip 1).span isWordCharacter
  if name.isEmpty || !endsLabel behind.rest then
    .error (.within construct cursor.place .labelMissing behind.place)
  else .ok (String.ofList name, behind)

/-! ## Tags -/

/-- Where the text of a tag stands: in a tag, between brackets, or in a
directive. -/
inductive TagPosition where
  | shorthand
  | verbatim
  | directive
deriving DecidableEq, Repr

namespace TagPosition

/-- The construct that faults in the text of a tag name. -/
def construct : TagPosition → Construct
  | .directive => .textOfDirective
  | _ => .textOfTag

/-- May this character stand in the text of a tag? -/
def admits (position : TagPosition) (character : Char) : Bool :=
  isWordCharacter character || ";/?:@&=+$.%!~*'()".toList.contains character ||
    (position != .shorthand && ",[]".toList.contains character)

end TagPosition

/-- The octet that a percent sign and two digits stand for. -/
def escapedOctet? (text : List Char) : Option Nat :=
  match text with
  | '%' :: upper :: lower :: _ => numberOfDigits? 16 [upper, lower]
  | _ => none

/-- The number of octets of a character, from the first of them. -/
def widthOf? (octet : Nat) : Option Nat :=
  if octet < 0x80 then some 1
  else if octet / 0x20 == 0x6 then some 2
  else if octet / 0x10 == 0xE then some 3
  else if octet / 0x8 == 0x1E then some 4
  else none

/-- The further octets of an escaped character. -/
def readTrailingOctets (construct : Construct) (start : Place) :
    Nat → Octets → Cursor → Except SyntaxFault (Octets × Cursor)
  | 0, taken, cursor => .ok (taken, cursor)
  | count + 1, taken, cursor =>
      match escapedOctet? cursor.rest with
      | none => .error (.within construct start .octetMissing cursor.place)
      | some octet =>
          if octet / 0x40 == 0x2 then
            readTrailingOctets construct start count (taken ++ [octet.toUInt8]) (cursor.skip 3)
          else .error (.within construct start .octetNotTrailing cursor.place)

/-- An escaped character, from its percent sign. -/
def readEscapedOctets (construct : Construct) (start : Place) (cursor : Cursor) :
    Except SyntaxFault (Octets × Cursor) :=
  match escapedOctet? cursor.rest with
  | none => .error (.within construct start .octetMissing cursor.place)
  | some octet =>
      match widthOf? octet with
      | none => .error (.within construct start .octetNotLeading cursor.place)
      | some width =>
          readTrailingOctets construct start (width - 1) [octet.toUInt8] (cursor.skip 3)

/-- Read the text of a tag.  Every turn takes a character, so the length of the
text bounds the turns. -/
def readTagTextLoop (position : TagPosition) (start : Place) :
    Nat → Octets → Cursor → Except SyntaxFault (Octets × Cursor)
  | 0, taken, cursor => .ok (taken, cursor)
  | fuel + 1, taken, cursor =>
      match cursor.next? with
      | none => .ok (taken, cursor)
      | some character =>
          if character == '%' then
            match readEscapedOctets position.construct start cursor with
            | .ok (octets, behind) =>
                readTagTextLoop position start fuel (taken ++ octets) behind
            | .error fault => .error fault
          else if position.admits character then
            readTagTextLoop position start fuel (taken ++ [character.toNat.toUInt8])
              (cursor.skip 1)
          else .ok (taken, cursor)

/-- Read the text of a tag that may be empty. -/
def readTagText (position : TagPosition) (start : Place) (cursor : Cursor) :
    Except SyntaxFault (Octets × Cursor) :=
  readTagTextLoop position start cursor.rest.length [] cursor

/-- Read the text of a tag that must not be empty. -/
def readSomeTagText (position : TagPosition) (start : Place) (cursor : Cursor) :
    Except SyntaxFault (Octets × Cursor) := do
  let (octets, behind) ← readTagText position start cursor
  if octets.isEmpty then
    .error (.within position.construct start .tagTextMissing behind.place)
  else return (octets, behind)

/-- The words between two exclamation marks, or behind the first of them. -/
def readHandle (cursor : Cursor) : List Char × Cursor :=
  let (name, behind) := (cursor.skip 1).span isWordCharacter
  if behind.sees '!' then ('!' :: name ++ ['!'], behind.skip 1) else ('!' :: name, behind)

/-- Read a tag between angle brackets. -/
def readVerbatimTag (cursor : Cursor) : Except SyntaxFault (TokenKind × Cursor) := do
  let (suffix, behind) ← readSomeTagText .verbatim cursor.place (cursor.skip 2)
  if behind.sees '>' then return (.tag "" suffix, behind.skip 1)
  else .error (.within .tag cursor.place .tagBracketMissing behind.place)

/-- Read a tag with a handle.  A lone exclamation mark is a tag of its own. -/
def readShorthandTag (cursor : Cursor) : Except SyntaxFault (TokenKind × Cursor) := do
  let start := cursor.place
  let (handle, behind) := readHandle cursor
  if 1 < handle.length && handle.getLast? == some '!' then
    let (suffix, behind) ← readSomeTagText .shorthand start behind
    return (.tag (String.ofList handle) suffix, behind)
  else
    let (further, behind) ← readTagText .shorthand start behind
    let suffix := octetsOf (String.ofList handle.tail) ++ further
    return (if suffix.isEmpty then .tag "" (octetsOf "!") else .tag "!" suffix, behind)

/-- Read a tag from its exclamation mark. -/
def readTag (inFlow : Bool) (cursor : Cursor) : Except SyntaxFault (TokenKind × Cursor) := do
  let (kind, behind) ←
    if cursor.ahead? 1 == some '<' then readVerbatimTag cursor else readShorthandTag cursor
  if startsBlank behind.rest || (inFlow && behind.sees ',') then return (kind, behind)
  else .error (.within .tag cursor.place .blankOrBreakMissing behind.place)

/-! ## Directives -/

/-- The greatest number of digits in a version number. -/
def versionDigits : Nat := 9

/-- Read a part of a version. -/
def readVersionNumber (start : Place) (cursor : Cursor) : Except SyntaxFault (Nat × Cursor) :=
  let (digits, behind) := cursor.span Char.isDigit
  if versionDigits < digits.length then
    .error (.within .versionDirective start .versionTooLong (cursor.skip versionDigits).place)
  else
    match numberOfDigits? 10 digits with
    | some number => .ok (number, behind)
    | none => .error (.within .versionDirective start .versionMissing behind.place)

/-- Read a version directive behind its name. -/
def readVersion (start : Place) (cursor : Cursor) : Except SyntaxFault (TokenKind × Cursor) := do
  let (major, behind) ← readVersionNumber start (cursor.skipWhile isBlank)
  if behind.sees '.' then
    let (minor, behind) ← readVersionNumber start (behind.skip 1)
    return (.versionDirective major minor, behind)
  else .error (.within .versionDirective start .versionPointMissing behind.place)

/-- Read the handle of a directive. -/
def readDirectiveHandle (start : Place) (cursor : Cursor) :
    Except SyntaxFault (List Char × Cursor) :=
  if cursor.sees '!' then
    let (handle, behind) := readHandle cursor
    if handle.getLast? == some '!' then .ok (handle, behind)
    else .error (.within .endOfHandle start .tagMarkMissing behind.place)
  else .error (.within .handleOfDirective start .tagMarkMissing cursor.place)

/-- Read a tag directive behind its name. -/
def readReplacement (start : Place) (cursor : Cursor) :
    Except SyntaxFault (TokenKind × Cursor) := do
  let (handle, behind) ← readDirectiveHandle start (cursor.skipWhile isBlank)
  if (behind.next?.map isBlank).getD false then
    let (replacement, behind) ←
      readSomeTagText .directive start (behind.skipWhile isBlank)
    if startsBlank behind.rest then
      return (.tagDirective (String.ofList handle) replacement, behind)
    else .error (.within .tagDirective start .blankOrBreakMissing behind.place)
  else .error (.within .tagDirective start .blankMissing behind.place)

/-- Read the name of a directive. -/
def readDirectiveName (start : Place) (cursor : Cursor) :
    Except SyntaxFault (String × Cursor) :=
  let (name, behind) := cursor.span isWordCharacter
  if name.isEmpty then .error (.within .directive start .directiveNameMissing behind.place)
  else if startsBlank behind.rest then .ok (String.ofList name, behind)
  else .error (.within .directive start .directiveNameInvalid behind.place)

/-- Read a directive from its percent sign; the cursor that is returned first is
the one behind its last word, the second the one on the next line. -/
def readDirective (cursor : Cursor) : Except SyntaxFault (TokenKind × Cursor × Cursor) := do
  let start := cursor.place
  let (name, behind) ← readDirectiveName start (cursor.skip 1)
  let (kind, behind) ←
    if name = "YAML" then readVersion start behind
    else if name = "TAG" then readReplacement start behind
    else .error (.within .directive start .directiveUnknown behind.place)
  let line := (behind.skipWhile isBlank).skipComment
  if startsBreak line.rest then return (kind, behind, line.skipBreak)
  else .error (.within .directive start .lineEndMissing line.place)

end Yaml

end Pipewright
