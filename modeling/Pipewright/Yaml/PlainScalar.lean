import Pipewright.Yaml.Gap

/-!
# Plain scalars

A plain scalar runs up to a colon with a blank behind it, a comment, a marker
between documents or a line that is not indented enough.  In flow collections
commas, brackets and braces end it too.
-/

namespace Pipewright

namespace Yaml

namespace PlainScalar

/-- The characters that structure flow collections. -/
def isFlowIndicator (character : Char) : Bool :=
  character == ',' || character == '[' || character == ']' || character == '\x7b' ||
    character == '\x7d'

/-- Is this a colon that must not stand in a flow collection? -/
def isMisplacedColon (text : List Char) : Bool :=
  match text with
  | ':' :: next :: _ => isFlowIndicator next || next == '?'
  | _ => false

/-- Does a scalar end before this text? -/
def endsBefore (inFlow : Bool) (text : List Char) : Bool :=
  match text with
  | [] => true
  | character :: rest =>
      isBlankOrBreak character ||
        (inFlow && (isFlowIndicator character || isMisplacedColon text)) ||
        (character == ':' && startsBlank rest)

/-- The leading characters of a text that belong to a scalar. -/
def word (inFlow : Bool) : List Char → List Char
  | [] => []
  | character :: rest =>
      if endsBefore inFlow (character :: rest) then []
      else character :: word inFlow rest

/-- A scalar that has been read, and whether a line break follows it. -/
structure Reading where
  text : List Char
  endsLine : Bool
  cursor : Cursor

/-- Read words and the gaps between them.  Every turn takes a word, so the length
of the text bounds the turns. -/
def readLoop (inFlow : Bool) (margin : Nat) (start : Place) :
    Nat → List Char → Gap → Cursor → Except SyntaxFault Reading
  | 0, text, gap, cursor => .ok ⟨text, gap.isBroken, cursor⟩
  | fuel + 1, text, gap, cursor =>
      if cursor.atDocumentMarker || cursor.sees '#' then .ok ⟨text, gap.isBroken, cursor⟩
      else
        let taken := word inFlow cursor.rest
        let behind := cursor.skip taken.length
        let ended := if taken.isEmpty then gap.isBroken else false
        let text := if taken.isEmpty then text else text ++ gap.folded ++ taken
        if inFlow && isMisplacedColon behind.rest then
          .error (.within .plainScalar start .colonUnexpected behind.place)
        else if (behind.next?.map isBlankOrBreak).getD false then
          match Gap.read margin Gap.empty behind with
          | .error place => .error (.within .plainScalar start .tabInIndentation place)
          | .ok (gap, behind) =>
              if !inFlow && behind.place.column < margin then .ok ⟨text, gap.isBroken, behind⟩
              else readLoop inFlow margin start fuel text gap behind
        else .ok ⟨text, ended, behind⟩

/-- Read a plain scalar; in block collections its lines have to be indented up to
`margin`. -/
def read (inFlow : Bool) (margin : Nat) (cursor : Cursor) : Except SyntaxFault Reading :=
  readLoop inFlow margin cursor.place (cursor.rest.length + 1) [] Gap.empty cursor

end PlainScalar

end Yaml

end Pipewright
