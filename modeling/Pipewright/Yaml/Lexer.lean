import Pipewright.Yaml.BlockScalar
import Pipewright.Yaml.Label
import Pipewright.Yaml.PlainScalar
import Pipewright.Yaml.QuotedScalar
import Pipewright.Yaml.Token

/-!
# Cutting a text into tokens

The indentation opens and closes block collections.  That something is a key is
known only at the colon behind it: a place where a key may begin is remembered,
and the mark of the key is put before it once the colon is found.  Such a key
lies within one line and 1024 characters.
-/

namespace Pipewright

namespace Yaml

/-- A place where a key may have begun: the number of tokens before it, and
whether the indentation leaves nothing else for it to be. -/
structure PossibleKey where
  position : Nat
  place : Place
  isRequired : Bool
deriving DecidableEq, Repr

namespace PossibleKey

/-- The greatest length of a key. -/
def lengthLimit : Nat := 1024

/-- Is the key too far behind? -/
def isStale (key : PossibleKey) (place : Place) : Bool :=
  key.place.line < place.line || key.place.offset + lengthLimit < place.offset

/-- Give up a key. -/
def abandon (key : PossibleKey) (place : Place) : Except SyntaxFault Unit :=
  if key.isRequired then .error (.within .simpleKey key.place .colonMissing place) else .ok ()

/-- Give up a key that is too far behind. -/
def refresh (place : Place) (key : Option PossibleKey) :
    Except SyntaxFault (Option PossibleKey) :=
  match key with
  | some key =>
      if key.isStale place then (key.abandon place).map fun _ => none else .ok (some key)
  | none => .ok none

end PossibleKey

/-- A text that is being cut into tokens: what has been found, the possible key
of the innermost collection and those of the flow collections around it, the
columns of the open block collections, and whether a key may begin here. -/
structure Lexer where
  cursor : Cursor
  tokens : Array Token
  key : Option PossibleKey
  outerKeys : List (Option PossibleKey)
  columns : List Nat
  isKeyAllowed : Bool
  isFinished : Bool

namespace Lexer

/-- The beginning of a text. -/
def start (text : List Char) : Lexer :=
  ⟨Cursor.ofText text, #[], none, [], [], true, false⟩

/-- Is the place inside a flow collection? -/
def inFlow (lexer : Lexer) : Bool := !lexer.outerKeys.isEmpty

/-- The least column of what belongs to the innermost block collection. -/
def margin (lexer : Lexer) : Nat :=
  match lexer.columns with
  | [] => 0
  | column :: _ => column + 1

/-- Add a token. -/
def push (lexer : Lexer) (kind : TokenKind) (start stop : Place) : Lexer :=
  { lexer with tokens := lexer.tokens.push ⟨kind, start, stop⟩ }

/-- Put a token before those from `position` on. -/
def insert (lexer : Lexer) (position : Nat) (kind : TokenKind) (place : Place) : Lexer :=
  { lexer with tokens := lexer.tokens.insertIdxIfInBounds position ⟨kind, place, place⟩ }

/-- Add a token and go on behind it. -/
def pushUpTo (lexer : Lexer) (kind : TokenKind) (behind : Cursor) : Lexer :=
  { lexer.push kind lexer.cursor.place behind.place with cursor := behind }

/-- Add the token of an indicator of `count` characters. -/
def pushIndicator (lexer : Lexer) (kind : TokenKind) (count : Nat) : Lexer :=
  lexer.pushUpTo kind (lexer.cursor.skip count)

/-- Say whether a key may begin here. -/
def allowKey (lexer : Lexer) (allowed : Bool) : Lexer :=
  { lexer with isKeyAllowed := allowed }

/-! ## Keys -/

/-- Give up the possible key of the innermost collection. -/
def dropKey (lexer : Lexer) : Except SyntaxFault Lexer :=
  match lexer.key with
  | some key => (key.abandon lexer.cursor.place).map fun _ => { lexer with key := none }
  | none => .ok lexer

/-- Remember that a key may begin here. -/
def noteKey (lexer : Lexer) : Except SyntaxFault Lexer :=
  if lexer.isKeyAllowed then do
    let lexer ← lexer.dropKey
    let place := lexer.cursor.place
    return { lexer with
      key := some ⟨lexer.tokens.size, place,
        !lexer.inFlow && lexer.columns.head? == some place.column⟩ }
  else .ok lexer

/-- Give up the keys that are too far behind, outermost first. -/
def refreshKeys (lexer : Lexer) : Except SyntaxFault Lexer := do
  let place := lexer.cursor.place
  let outer ← lexer.outerKeys.reverse.mapM (PossibleKey.refresh place)
  let key ← PossibleKey.refresh place lexer.key
  return { lexer with key := key, outerKeys := outer.reverse }

/-! ## Block collections -/

/-- Open a block collection at a column unless it is open already; its token goes
to `position`. -/
def openBlock (lexer : Lexer) (column position : Nat) (kind : TokenKind) (place : Place) :
    Lexer :=
  if !lexer.inFlow && lexer.margin ≤ column then
    { lexer.insert position kind place with columns := column :: lexer.columns }
  else lexer

/-- Close the block collections to the right of a column. -/
def closeBlocks (lexer : Lexer) (keeps : Nat → Bool) : Lexer :=
  if lexer.inFlow then lexer
  else
    let closed := lexer.columns.takeWhile fun column => !keeps column
    let place := lexer.cursor.place
    { lexer with
      tokens := lexer.tokens ++ Array.replicate closed.length ⟨.blockEnd, place, place⟩
      columns := lexer.columns.drop closed.length }

/-- Close all block collections. -/
def closeAllBlocks (lexer : Lexer) : Lexer :=
  lexer.closeBlocks fun _ => false

/-! ## Tokens -/

/-- The end of the text, which counts as the beginning of a line. -/
def readEnd (lexer : Lexer) : Except SyntaxFault Lexer := do
  let place := lexer.cursor.place
  let place := if place.column == 0 then place else ⟨place.offset, place.line + 1, 0⟩
  let lexer ← ({ lexer with cursor := ⟨[], place⟩ } : Lexer).closeAllBlocks.dropKey
  return { lexer.allowKey false with isFinished := true }

/-- A directive. -/
def readDirectiveLine (lexer : Lexer) : Except SyntaxFault Lexer := do
  let lexer ← lexer.closeAllBlocks.dropKey
  let (kind, stop, behind) ← readDirective lexer.cursor
  return { (lexer.allowKey false).push kind lexer.cursor.place stop.place with cursor := behind }

/-- A marker between documents. -/
def readDocumentMarker (lexer : Lexer) : Except SyntaxFault Lexer := do
  let lexer ← lexer.closeAllBlocks.dropKey
  let kind := if lexer.cursor.sees '-' then TokenKind.documentStart else .documentEnd
  return (lexer.allowKey false).pushIndicator kind 3

/-- The beginning of a flow collection. -/
def readFlowStart (lexer : Lexer) (kind : TokenKind) : Except SyntaxFault Lexer := do
  let lexer ← lexer.noteKey
  return ({ lexer with key := none, outerKeys := lexer.key :: lexer.outerKeys } : Lexer)
    |>.allowKey true |>.pushIndicator kind 1

/-- The end of a flow collection. -/
def readFlowEnd (lexer : Lexer) (kind : TokenKind) : Except SyntaxFault Lexer := do
  let lexer ← lexer.dropKey
  let lexer :=
    match lexer.outerKeys with
    | key :: outer => { lexer with key := key, outerKeys := outer }
    | [] => lexer
  return (lexer.allowKey false).pushIndicator kind 1

/-- A comma in a flow collection. -/
def readFlowEntry (lexer : Lexer) : Except SyntaxFault Lexer := do
  let lexer ← lexer.dropKey
  return (lexer.allowKey true).pushIndicator .flowEntry 1

/-- Open a block collection at an indicator; outside flow collections the
indicator stands only where a key may begin. -/
def openBlockHere (lexer : Lexer) (kind : TokenKind) (problem : Problem) :
    Except SyntaxFault Lexer :=
  let place := lexer.cursor.place
  if lexer.inFlow || lexer.isKeyAllowed then
    .ok (lexer.openBlock place.column lexer.tokens.size kind place)
  else .error (.atPlace problem place)

/-- The hyphen before an entry of a block sequence. -/
def readBlockEntry (lexer : Lexer) : Except SyntaxFault Lexer := do
  let lexer ←
    if lexer.inFlow then pure lexer
    else lexer.openBlockHere .blockSequenceStart .entryNotAllowed
  let lexer ← lexer.dropKey
  return (lexer.allowKey true).pushIndicator .blockEntry 1

/-- The question mark before a key. -/
def readKeyMark (lexer : Lexer) : Except SyntaxFault Lexer := do
  let lexer ← lexer.openBlockHere .blockMappingStart .keyNotAllowed
  let lexer ← lexer.dropKey
  return (lexer.allowKey !lexer.inFlow).pushIndicator .key 1

/-- The colon before a value.  If a key may have begun before it, one has. -/
def readValueMark (lexer : Lexer) : Except SyntaxFault Lexer := do
  match lexer.key with
  | some key =>
      let lexer := (lexer.insert key.position .key key.place).openBlock key.place.column
        key.position .blockMappingStart key.place
      return ({ lexer with key := none }.allowKey false).pushIndicator .value 1
  | none =>
      let lexer ← lexer.openBlockHere .blockMappingStart .valueNotAllowed
      return (lexer.allowKey !lexer.inFlow).pushIndicator .value 1

/-- An anchor or alias. -/
def readAnchor (lexer : Lexer) (construct : Construct) (kind : String → TokenKind) :
    Except SyntaxFault Lexer := do
  let lexer ← lexer.noteKey
  let (name, behind) ← readLabel construct lexer.cursor
  return (lexer.allowKey false).pushUpTo (kind name) behind

/-- A tag. -/
def readTagToken (lexer : Lexer) : Except SyntaxFault Lexer := do
  let lexer ← lexer.noteKey
  let (kind, behind) ← readTag lexer.inFlow lexer.cursor
  return (lexer.allowKey false).pushUpTo kind behind

/-- A block scalar. -/
def readBlockScalar (lexer : Lexer) (isFolded : Bool) : Except SyntaxFault Lexer := do
  let lexer ← lexer.dropKey
  let (text, behind) ← BlockScalar.read isFolded lexer.columns.head? lexer.cursor
  return (lexer.allowKey true).pushUpTo
    (.scalar (if isFolded then .folded else .literal) (String.ofList text)) behind

/-- A quoted scalar. -/
def readQuotedScalar (lexer : Lexer) (isSingle : Bool) : Except SyntaxFault Lexer := do
  let lexer ← lexer.noteKey
  let (text, behind) ← QuotedScalar.read isSingle lexer.cursor
  return (lexer.allowKey false).pushUpTo
    (.scalar (if isSingle then .singleQuoted else .doubleQuoted) (String.ofList text)) behind

/-- A plain scalar.  Behind a line break a key may begin. -/
def readPlainScalar (lexer : Lexer) : Except SyntaxFault Lexer := do
  let lexer ← lexer.noteKey
  let reading ← PlainScalar.read lexer.inFlow lexer.margin lexer.cursor
  return (lexer.allowKey reading.endsLine).pushUpTo
    (.scalar .plain (String.ofList reading.text)) reading.cursor

/-- The characters that begin no token of their own and no plain scalar. -/
def isReserved (character : Char) : Bool :=
  isBlankOrBreak character || "#|>%@\x60".toList.contains character

/-- The next token, at the cursor. -/
def readToken (lexer : Lexer) : Except SyntaxFault Lexer :=
  match lexer.cursor.rest with
  | [] => lexer.readEnd
  | first :: rest =>
      if lexer.cursor.place.column == 0 && first == '%' then lexer.readDirectiveLine
      else if lexer.cursor.atDocumentMarker then lexer.readDocumentMarker
      else if first == '[' then lexer.readFlowStart .flowSequenceStart
      else if first == '\x7b' then lexer.readFlowStart .flowMappingStart
      else if first == ']' then lexer.readFlowEnd .flowSequenceEnd
      else if first == '\x7d' then lexer.readFlowEnd .flowMappingEnd
      else if first == ',' then lexer.readFlowEntry
      else if first == '-' && startsBlank rest then lexer.readBlockEntry
      else if first == '?' && (lexer.inFlow || startsBlank rest) then lexer.readKeyMark
      else if first == ':' && (lexer.inFlow || startsBlank rest) then lexer.readValueMark
      else if first == '*' then lexer.readAnchor .aliasLabel .aliasLabel
      else if first == '&' then lexer.readAnchor .anchor .anchor
      else if first == '!' then lexer.readTagToken
      else if first == '|' && !lexer.inFlow then lexer.readBlockScalar false
      else if first == '>' && !lexer.inFlow then lexer.readBlockScalar true
      else if first == '\'' then lexer.readQuotedScalar true
      else if first == '"' then lexer.readQuotedScalar false
      else if isReserved first then
        .error (.within .nextToken lexer.cursor.place .strayCharacter lexer.cursor.place)
      else lexer.readPlainScalar

/-- Go on to the next token.  Tabs count as blanks only where no key may begin.
Every turn takes a line break, so the length of the text bounds the turns. -/
def skipBlanks : Nat → Lexer → Lexer
  | 0, lexer => lexer
  | fuel + 1, lexer =>
      let blank (character : Char) : Bool :=
        character == ' ' || ((lexer.inFlow || !lexer.isKeyAllowed) && character == '\t')
      let cursor := (lexer.cursor.skipWhile blank).skipComment
      if (cursor.next?.map isBreak).getD false then
        skipBlanks fuel
          { lexer with
            cursor := cursor.skipBreak
            isKeyAllowed := lexer.isKeyAllowed || !lexer.inFlow }
      else { lexer with cursor := cursor }

/-- Go on to the next token and read it. -/
def step (lexer : Lexer) : Except SyntaxFault Lexer := do
  let lexer ← lexer.refreshKeys
  let lexer ← (skipBlanks (lexer.cursor.rest.length + 1) lexer).refreshKeys
  let column := lexer.cursor.place.column
  (lexer.closeBlocks (· ≤ column)).readToken

/-- The tokens that no key can come before any more. -/
def settled (lexer : Lexer) : List Token :=
  (lexer.key :: lexer.outerKeys).foldl
    (fun tokens key => (key.map fun key => tokens.take key.position).getD tokens)
    lexer.tokens.toList

/-- Read the rest of a text.  Every turn but the last takes a character, so the
length of the text bounds the turns. -/
def run : Nat → Lexer → TokenStream
  | 0, lexer => ⟨lexer.settled, .ok lexer.cursor.place⟩
  | fuel + 1, lexer =>
      match lexer.step with
      | .error fault => ⟨lexer.settled, .error fault⟩
      | .ok next =>
          if next.isFinished then ⟨next.tokens.toList, .ok next.cursor.place⟩
          else run fuel next

end Lexer

/-- The tokens of a text. -/
def TokenStream.ofText (text : List Char) : TokenStream :=
  Lexer.run (text.length + 1) (Lexer.start text)

end Yaml

end Pipewright
