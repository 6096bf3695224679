import Pipewright.Yaml.Token

/-!
# Events

The grammar turns tokens into events: documents, collections and scalars begin
and end.  It is a machine that says what is expected next, innermost collection
first; each step yields one event.
-/

namespace Pipewright

namespace Yaml

/-- The anchor and the tag in front of a node. -/
structure Properties where
  anchor : Option String
  tag : Option Octets
deriving DecidableEq, Repr, Inhabited

/-- What happens in a text. -/
inductive EventKind where
  | documentStart
  | documentEnd
  | streamEnd
  | aliasLabel (name : String)
  | scalar (properties : Properties) (style : ScalarStyle) (text : String)
  | sequenceStart (properties : Properties)
  | sequenceEnd
  | mappingStart (properties : Properties)
  | mappingEnd
deriving DecidableEq, Repr, Inhabited

/-- An event and the place where it begins. -/
structure Event where
  kind : EventKind
  place : Place
deriving DecidableEq, Repr, Inhabited

/-- What is expected next.  A collection knows where it begins, and a flow
collection whether nothing has been read of it. -/
inductive Expectation where
  | document (mayBeBare : Bool)
  | documentContent
  | documentEnd
  | node
  | blockEntry (start : Place)
  | indentlessEntry
  | blockKey (start : Place)
  | blockValue (start : Place)
  | flowEntry (start : Place) (isFirst : Bool)
  | pairKey (start : Place)
  | pairValue (start : Place)
  | pairEnd (start : Place)
  | flowKey (start : Place) (isFirst : Bool)
  | flowValue (start : Place)
  | flowNoValue (start : Place)
deriving DecidableEq, Repr

/-- A text that is being read: its tokens, what is expected, and the handles of
the document with what they are short for. -/
structure EventReader where
  tokens : TokenStream
  expected : List Expectation
  handles : List (String × Octets)

namespace EventReader

/-- The result of a step. -/
abbrev Step := Except SyntaxFault (Event × EventReader)

/-- The beginning of a text. -/
def start (tokens : TokenStream) : EventReader :=
  ⟨tokens, [.document true], []⟩

/-- The reader behind the next token. -/
def skip (reader : EventReader) : EventReader :=
  { reader with tokens := reader.tokens.skip }

/-- The reader that expects something else next. -/
def expect (reader : EventReader) (expectation : Expectation) : EventReader :=
  { reader with expected := expectation :: reader.expected }

/-- Yield an event. -/
def yields (reader : EventReader) (kind : EventKind) (place : Place) : Step :=
  .ok (⟨kind, place⟩, reader)

/-- Yield an empty scalar. -/
def yieldsNothing (reader : EventReader) (place : Place) : Step :=
  reader.yields (.scalar ⟨none, none⟩ .plain "") place

/-! ## Directives -/

/-- The handles that every document has. -/
def standardHandles : List (String × Octets) :=
  [("!", octetsOf "!"), ("!!", octetsOf "tag:yaml.org,2002:")]

/-- Add the standard handles to those of a document. -/
def completeHandles (handles : List (String × Octets)) : List (String × Octets) :=
  handles ++ standardHandles.filter fun entry => (handles.lookup entry.1).isNone

/-- Read the directives of a document.  Every turn takes a token, so their number
bounds the turns. -/
def readDirectives : Nat → Bool → EventReader → Except SyntaxFault EventReader
  | 0, _, reader => .ok reader
  | fuel + 1, hasVersion, reader => do
      let token ← reader.tokens.next
      match token.kind with
      | .versionDirective major minor =>
          if hasVersion then .error (.atPlace .versionDuplicate token.start)
          else if major = 1 ∧ (minor = 1 ∨ minor = 2) then readDirectives fuel true reader.skip
          else .error (.atPlace .versionUnsupported token.start)
      | .tagDirective handle replacement =>
          if (reader.handles.lookup handle).isSome then
            .error (.atPlace .handleDuplicate token.start)
          else
            readDirectives fuel hasVersion
              { reader.skip with handles := reader.handles ++ [(handle, replacement)] }
      | _ => return { reader with handles := completeHandles reader.handles }

/-- Go on behind the markers at the end of a document. -/
def skipEndMarkers (reader : EventReader) : EventReader :=
  { reader with
    tokens := ⟨reader.tokens.tokens.dropWhile (·.kind == .documentEnd), reader.tokens.ending⟩ }

/-! ## Nodes -/

/-- The anchor and the tag in front of a node, where they begin, and where the
tag does. -/
structure Prelude where
  anchor : Option String
  tag : Option (String × Octets)
  start : Place
  tagStart : Place
  reader : EventReader

/-- Read an anchor and a tag, each at most once and in either order. -/
def readPrelude (reader : EventReader) : Except SyntaxFault Prelude := do
  let first ← reader.tokens.next
  match first.kind with
  | .anchor name =>
      let second ← reader.skip.tokens.next
      match second.kind with
      | .tag handle suffix =>
          return ⟨some name, some (handle, suffix), first.start, second.start,
            reader.skip.skip⟩
      | _ => return ⟨some name, none, first.start, first.start, reader.skip⟩
  | .tag handle suffix =>
      let second ← reader.skip.tokens.next
      match second.kind with
      | .anchor name =>
          return ⟨some name, some (handle, suffix), first.start, first.start,
            reader.skip.skip⟩
      | _ => return ⟨none, some (handle, suffix), first.start, first.start, reader.skip⟩
  | _ => return ⟨none, none, first.start, first.start, reader⟩

/-- The tag with its handle replaced. -/
def Prelude.resolveTag (begun : Prelude) : Except SyntaxFault (Option Octets) :=
  match begun.tag with
  | none => .ok none
  | some (handle, suffix) =>
      if handle.isEmpty then .ok (some suffix)
      else
        match begun.reader.handles.lookup handle with
        | some replacement => .ok (some (replacement ++ suffix))
        | none => .error (.within .node begun.start .handleUndefined begun.tagStart)

/-- A tag in front of a scalar; a lone exclamation mark is none. -/
def scalarTag (tag : Option Octets) : Option Octets :=
  if tag == some (octetsOf "!") then none else tag

/-- Read the node that comes next.  Block collections are not allowed inside flow
collections, and only the entry of a block mapping may be a sequence that is not
indented. -/
def readNode (reader : EventReader) (isBlock mayBeIndentless : Bool) : Step := do
  let token ← reader.tokens.next
  match token.kind with
  | .aliasLabel name => reader.skip.yields (.aliasLabel name) token.start
  | _ =>
      let begun ← reader.readPrelude
      let reader := begun.reader
      let token ← reader.tokens.next
      let tag ← begun.resolveTag
      let properties : Properties := ⟨begun.anchor, tag⟩
      match token.kind, isBlock, mayBeIndentless with
      | .blockEntry, _, true =>
          (reader.expect .indentlessEntry).yields (.sequenceStart properties) begun.start
      | .scalar style text, _, _ =>
          reader.skip.yields (.scalar ⟨begun.anchor, scalarTag tag⟩ style text) begun.start
      | .flowSequenceStart, _, _ =>
          (reader.skip.expect (.flowEntry token.start true)).yields (.sequenceStart properties)
            begun.start
      | .flowMappingStart, _, _ =>
          (reader.skip.expect (.flowKey token.start true)).yields (.mappingStart properties)
            begun.start
      | .blockSequenceStart, true, _ =>
          (reader.skip.expect (.blockEntry token.start)).yields (.sequenceStart properties)
            begun.start
      | .blockMappingStart, true, _ =>
          (reader.skip.expect (.blockKey token.start)).yields (.mappingStart properties)
            begun.start
      | _, _, _ =>
          if begun.anchor.isSome || tag.isSome then
            reader.yields (.scalar properties .plain "") begun.start
          else
            .error (.within (if isBlock then .blockNode else .flowNode) begun.start
              .contentMissing token.start)

/-- Read a node unless a token of some kinds comes next, which leaves it empty;
afterwards `next` is expected. -/
def readNodeUnless (reader : EventReader) (isBlock mayBeIndentless : Bool)
    (next : Expectation) (ends : TokenKind → Bool) (place : Token → Place) : Step := do
  let token ← reader.tokens.next
  if ends token.kind then (reader.expect next).yieldsNothing (place token)
  else (reader.expect next).readNode isBlock mayBeIndentless

/-! ## Documents -/

/-- The beginning of a document or the end of the text. -/
def readDocumentStart (reader : EventReader) (mayBeBare : Bool) : Step := do
  let reader := if mayBeBare then reader else reader.skipEndMarkers
  let token ← reader.tokens.next
  let isBare :=
    match token.kind with
    | .versionDirective _ _ => false
    | .tagDirective _ _ => false
    | .documentStart => false
    | .streamEnd => false
    | _ => mayBeBare
  if token.kind == .streamEnd then reader.yields .streamEnd token.start
  else if isBare then
    let reader := { reader with handles := completeHandles [] }
    ((reader.expect .documentEnd).expect .node).yields .documentStart token.start
  else
    let reader ← readDirectives (reader.tokens.tokens.length + 1) false
      { reader with handles := [] }
    let marker ← reader.tokens.next
    if marker.kind == .documentStart then
      ((reader.skip.expect .documentEnd).expect .documentContent).yields .documentStart
        token.start
    else .error (.atPlace .documentStartMissing marker.start)

/-- Does a document end at this token, without any content before it? -/
def endsDocument : TokenKind → Bool
  | .versionDirective _ _ => true
  | .tagDirective _ _ => true
  | .documentStart => true
  | .documentEnd => true
  | .streamEnd => true
  | _ => false

/-- The end of a document. -/
def readDocumentEnd (reader : EventReader) : Step := do
  let token ← reader.tokens.next
  let reader := if token.kind == .documentEnd then reader.skip else reader
  (reader.expect (.document false)).yields .documentEnd token.start

/-! ## Block collections -/

/-- The next entry of a block sequence or its end. -/
def readBlockEntry (reader : EventReader) (start : Place) : Step := do
  let token ← reader.tokens.next
  match token.kind with
  | .blockEntry =>
      reader.skip.readNodeUnless true false (.blockEntry start)
        (fun kind => kind == .blockEntry || kind == .blockEnd) fun _ => token.stop
  | .blockEnd => reader.skip.yields .sequenceEnd token.start
  | _ => .error (.within .blockCollection start .hyphenMissing token.start)

/-- Does nothing stand between an indicator of a block mapping and this token? -/
def leavesEntryEmpty (kind : TokenKind) : Bool :=
  kind == .key || kind == .value || kind == .blockEnd

/-- The next entry of a sequence that is not indented, or its end. -/
def readIndentlessEntry (reader : EventReader) : Step := do
  let token ← reader.tokens.next
  match token.kind with
  | .blockEntry =>
      reader.skip.readNodeUnless true false .indentlessEntry
        (fun kind => kind == .blockEntry || leavesEntryEmpty kind) fun _ => token.stop
  | _ => reader.yields .sequenceEnd token.start

/-- The next key of a block mapping or its end. -/
def readBlockKey (reader : EventReader) (start : Place) : Step := do
  let token ← reader.tokens.next
  match token.kind with
  | .key =>
      reader.skip.readNodeUnless true true (.blockValue start) leavesEntryEmpty
        fun _ => token.stop
  | .blockEnd => reader.skip.yields .mappingEnd token.start
  | _ => .error (.within .blockMapping start .keyMissing token.start)

/-- The value of a key in a block mapping. -/
def readBlockValue (reader : EventReader) (start : Place) : Step := do
  let token ← reader.tokens.next
  match token.kind with
  | .value =>
      reader.skip.readNodeUnless true true (.blockKey start) leavesEntryEmpty
        fun _ => token.stop
  | _ => (reader.expect (.blockKey start)).yieldsNothing token.start

/-! ## Flow collections -/

/-- Go on behind the comma before an element of a flow collection. -/
def skipComma (reader : EventReader) (start : Place) (construct : Construct)
    (problem : Problem) (isFirst : Bool) : Except SyntaxFault EventReader := do
  let token ← reader.tokens.next
  if isFirst then return reader
  else if token.kind == .flowEntry then return reader.skip
  else .error (.within construct start problem token.start)

/-- The next element of a flow sequence or its end.  A key makes the element a
mapping of one pair. -/
def readFlowEntry (reader : EventReader) (start : Place) (isFirst : Bool) : Step := do
  let token ← reader.tokens.next
  if token.kind == .flowSequenceEnd then reader.skip.yields .sequenceEnd token.start
  else
    let reader ← reader.skipComma start .flowSequence .sequenceCommaMissing isFirst
    let token ← reader.tokens.next
    match token.kind with
    | .flowSequenceEnd => reader.skip.yields .sequenceEnd token.start
    | .key =>
        (reader.skip.expect (.pairKey start)).yields (.mappingStart ⟨none, none⟩) token.start
    | _ => (reader.expect (.flowEntry start false)).readNode false false

/-- The key of a pair in a flow sequence.  When it is left out, so is the token
that shows this. -/
def readPairKey (reader : EventReader) (start : Place) : Step := do
  let token ← reader.tokens.next
  if token.kind == .value || token.kind == .flowEntry || token.kind == .flowSequenceEnd then
    (reader.skip.expect (.pairValue start)).yieldsNothing token.stop
  else (reader.expect (.pairValue start)).readNode false false

/-- The value of a pair in a flow sequence. -/
def readPairValue (reader : EventReader) (start : Place) : Step := do
  let token ← reader.tokens.next
  match token.kind with
  | .value =>
      reader.skip.readNodeUnless false false (.pairEnd start)
        (fun kind => kind == .flowEntry || kind == .flowSequenceEnd) (·.start)
  | _ => (reader.expect (.pairEnd start)).yieldsNothing token.start

/-- The end of a pair in a flow sequence. -/
def readPairEnd (reader : EventReader) (start : Place) : Step := do
  let token ← reader.tokens.next
  (reader.expect (.flowEntry start false)).yields .mappingEnd token.start

/-- Does nothing stand between an indicator of a flow mapping and this token? -/
def leavesPartEmpty (kind : TokenKind) : Bool :=
  kind == .flowEntry || kind == .flowMappingEnd

/-- The next key of a flow mapping or its end. -/
def readFlowKey (reader : EventReader) (start : Place) (isFirst : Bool) : Step := do
  let token ← reader.tokens.next
  if token.kind == .flowMappingEnd then reader.skip.yields .mappingEnd token.start
  else
    let reader ← reader.skipComma start .flowMapping .mappingCommaMissing isFirst
    let token ← reader.tokens.next
    match token.kind with
    | .flowMappingEnd => reader.skip.yields .mappingEnd token.start
    | .key =>
        reader.skip.readNodeUnless false false (.flowValue start)
          (fun kind => kind == .value || leavesPartEmpty kind) (·.start)
    | _ => (reader.expect (.flowNoValue start)).readNode false false

/-- The value of a key in a flow mapping. -/
def readFlowValue (reader : EventReader) (start : Place) : Step := do
  let token ← reader.tokens.next
  match token.kind with
  | .value =>
      reader.skip.readNodeUnless false false (.flowKey start false) leavesPartEmpty (·.start)
  | _ => (reader.expect (.flowKey start false)).yieldsNothing token.start

/-- The missing value of a key without a mark. -/
def readNoValue (reader : EventReader) (start : Place) : Step := do
  let token ← reader.tokens.next
  (reader.expect (.flowKey start false)).yieldsNothing token.start

/-- The next event.  At the end of the text it stays the same. -/
def step (reader : EventReader) : Step :=
  match reader.expected with
  | [] => do
      let token ← reader.tokens.next
      reader.yields .streamEnd token.start
  | expectation :: outer =>
      let rest := { reader with expected := outer }
      match expectation with
      | .document mayBeBare => rest.readDocumentStart mayBeBare
      | .documentContent => do
          let token ← rest.tokens.next
          if endsDocument token.kind then rest.yieldsNothing token.start
          else rest.readNode true false
      | .documentEnd => rest.readDocumentEnd
      | .node => rest.readNode true false
      | .blockEntry start => rest.readBlockEntry start
      | .indentlessEntry => rest.readIndentlessEntry
      | .blockKey start => rest.readBlockKey start
      | .blockValue start => rest.readBlockValue start
      | .flowEntry start isFirst => rest.readFlowEntry start isFirst
      | .pairKey start => rest.readPairKey start
      | .pairValue start => rest.readPairValue start
      | .pairEnd start => rest.readPairEnd start
      | .flowKey start isFirst => rest.readFlowKey start isFirst
      | .flowValue start => rest.readFlowValue start
      | .flowNoValue start => rest.readNoValue start

/-- A number of events that no text with this reader's tokens exceeds: a token
yields one event and leaves at most three empty scalars or ends behind it. -/
def eventBound (reader : EventReader) : Nat :=
  4 * reader.tokens.tokens.length + 8

end EventReader

end Yaml

end Pipewright
