import Pipewright.Yaml.Event
import Pipewright.Yaml.Lexer

/-!
# The first document of a text

A text is read up to the end of its first document.  The nodes of the document
are kept as they follow one another; an alias names a place among them.
-/

namespace Pipewright

namespace Yaml

/-- What a document consists of. -/
inductive PieceKind where
  | aliasLabel (target : Nat)
  | scalar (tag : Option Octets) (style : ScalarStyle) (text : String)
  | sequenceStart (tag : Option Octets)
  | sequenceEnd
  | mappingStart (tag : Option Octets)
  | mappingEnd
deriving DecidableEq, Repr, Inhabited

/-- A piece of a document and the place where it begins. -/
structure Piece where
  kind : PieceKind
  place : Place
deriving DecidableEq, Repr, Inhabited

/-- Why reading a document ended early. -/
inductive DocumentFault where
  | malformed (fault : SyntaxFault)
  | unknownAnchor (place : Place)
deriving DecidableEq, Repr

/-- The first document of a text: its pieces, the position of the piece that an
alias stands for, why it ended early if it did, and whether more documents
follow. -/
structure Document where
  pieces : Array Piece
  targets : List (Nat × Nat)
  fault : Option DocumentFault
  isFollowed : Bool

/-- A document that is being read.  An anchor is known by the number of different
names that came before it, also when its own name is among them. -/
structure DocumentReader where
  pieces : Array Piece
  anchors : List (String × Nat)
  targets : List (Nat × Nat)

namespace DocumentReader

/-- The beginning of a document. -/
def empty : DocumentReader := ⟨#[], [], []⟩

/-- Put an entry in front of those it replaces. -/
def replaceEntry {α β : Type} [BEq α] (entries : List (α × β)) (key : α) (value : β) :
    List (α × β) :=
  (key, value) :: entries.filter fun entry => !(entry.1 == key)

/-- Note that the next piece has an anchor. -/
def noteAnchor (reader : DocumentReader) (anchor : Option String) : DocumentReader :=
  match anchor with
  | none => reader
  | some name =>
      let number := reader.anchors.length
      { reader with
        anchors := replaceEntry reader.anchors name number
        targets := replaceEntry reader.targets number reader.pieces.size }

/-- Add a piece. -/
def push (reader : DocumentReader) (kind : PieceKind) (place : Place) : DocumentReader :=
  { reader with pieces := reader.pieces.push ⟨kind, place⟩ }

/-- The document that has been read. -/
def finish (reader : DocumentReader) (fault : Option DocumentFault) (isFollowed : Bool) :
    Document :=
  ⟨reader.pieces, reader.targets, fault, isFollowed⟩

/-- Does something other than the end of the text come next? -/
def isFollowed (events : EventReader) : Bool :=
  match events.step with
  | .ok (event, _) => event.kind != .streamEnd
  | .error _ => true

/-- Read events up to the end of the document. -/
def run : Nat → EventReader → DocumentReader → Document
  | 0, _, reader => reader.finish none false
  | fuel + 1, events, reader =>
      match events.step with
      | .error fault => reader.finish (some (.malformed fault)) true
      | .ok (event, events) =>
          match event.kind with
          | .documentStart => run fuel events reader
          | .streamEnd => reader.finish none false
          | .documentEnd => reader.finish none (isFollowed events)
          | .aliasLabel name =>
              match reader.anchors.lookup name with
              | some number =>
                  run fuel events (reader.push (.aliasLabel number) event.place)
              | none => reader.finish (some (.unknownAnchor event.place)) true
          | .scalar properties style text =>
              run fuel events
                ((reader.noteAnchor properties.anchor).push (.scalar properties.tag style text)
                  event.place)
          | .sequenceStart properties =>
              run fuel events
                ((reader.noteAnchor properties.anchor).push (.sequenceStart properties.tag)
                  event.place)
          | .sequenceEnd => run fuel events (reader.push .sequenceEnd event.place)
          | .mappingStart properties =>
              run fuel events
                ((reader.noteAnchor properties.anchor).push (.mappingStart properties.tag)
                  event.place)
          | .mappingEnd => run fuel events (reader.push .mappingEnd event.place)

end DocumentReader

/-- The number of octets of a text before its first control character. -/
def controlCharacter? (text : List Char) : Option Nat :=
  let isAllowed (character : Char) : Bool :=
    let code := character.toNat
    code == 0x09 || code == 0x0A || code == 0x0D || (0x20 ≤ code && code ≤ 0x7E) ||
      code == 0x85 || (0xA0 ≤ code && code ≤ 0xFFFD && code != 0xFEFF) || 0x10000 ≤ code
  match text.dropWhile isAllowed with
  | [] => none
  | _ => some ((text.takeWhile isAllowed).foldl (fun count next => count + next.utf8Size) 0)

/-- A text without a byte order mark in front. -/
def withoutMark (text : List Char) : List Char :=
  match text with
  | '\ufeff' :: rest => rest
  | _ => text

/-- The first document of a text.  A control character anywhere leaves it without
pieces. -/
def Document.ofText (text : String) : Document :=
  let text := withoutMark text.toList
  match controlCharacter? text with
  | some offset => ⟨#[], [], some (.malformed (.atByte .controlCharacter offset)), true⟩
  | none =>
      let events := EventReader.start (TokenStream.ofText text)
      DocumentReader.run events.eventBound events DocumentReader.empty

end Yaml

end Pipewright
