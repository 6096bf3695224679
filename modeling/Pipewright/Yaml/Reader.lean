import Pipewright.Unicode.Visible
import Pipewright.Yaml.Document
import Pipewright.Yaml.PlainValue

/-!
# Reading a text as a document

The nodes of a YAML text become a JSON tree.  Keys are scalars and count as
written; of a repeated key the first position and the last value count.  An
alias is followed wherever it stands, as often as a bound on all of them allows.
-/

namespace Pipewright

namespace Yaml

/-- The way from the root of a document to a node. -/
inductive NodePath where
  | root
  | element (parent : NodePath) (position : Nat)
  | member (parent : NodePath) (key : String)
  | unnamed (parent : NodePath)
  | followed (parent : NodePath)
deriving DecidableEq, Repr

namespace NodePath

/-- The text of a path. -/
def text : NodePath → String
  | .root => "."
  | .element parent position => parent.text ++ "[" ++ toString position ++ "]"
  | .member .root key => key
  | .member parent key => parent.text ++ "." ++ key
  | .unnamed .root => "?"
  | .unnamed parent => parent.text ++ ".?"
  | .followed parent => parent.text

end NodePath

/-- Why a node has no value. -/
inductive ValueProblem where
  | localTag
  | notBoolean (text : String)
  | notInteger (text : String)
  | notReal (text : String)
  | notNull (text : String)
  | outOfRange
  | keyNotScalar (isFirst isMapping : Bool)
deriving DecidableEq, Repr

/-- The wording of a problem. -/
def ValueProblem.message : ValueProblem → String
  | .localTag => "invalid type: enum, expected any valid JSON value"
  | .notBoolean text => "invalid value: string " ++ Visible.quote text ++ ", expected a boolean"
  | .notInteger text => "invalid value: string " ++ Visible.quote text ++ ", expected an integer"
  | .notReal text => "invalid value: string " ++ Visible.quote text ++ ", expected a float"
  | .notNull text => "invalid value: string " ++ Visible.quote text ++ ", expected null"
  | .outOfRange => "JSON number out of range"
  | .keyNotScalar isFirst isMapping =>
      "invalid type: " ++ (if isMapping then "map" else "sequence") ++ ", expected a string" ++
        if isFirst then " key" else ""

end Yaml

/-- Why a text is not a YAML document. -/
inductive YamlFault where
  | unreadable (fault : Yaml.DocumentFault)
  | incomplete
  | severalDocuments
  | nestedTooDeep (place : Yaml.Place)
  | repeatedTooOften
  | noValue (problem : Yaml.ValueProblem) (path : Yaml.NodePath) (place : Yaml.Place)
deriving DecidableEq, Repr

/-- The wording of a fault. -/
def YamlFault.message : YamlFault → String
  | .unreadable (.malformed fault) => fault.message
  | .unreadable (.unknownAnchor place) => "unknown anchor" ++ place.suffix
  | .incomplete => "EOF while parsing a value"
  | .severalDocuments =>
      "deserializing from YAML containing more than one document is not supported"
  | .nestedTooDeep place => "recursion limit exceeded" ++ place.suffix
  | .repeatedTooOften => "repetition limit exceeded"
  | .noValue problem path place =>
      (if path.text = "." then "" else path.text ++ ": ") ++ problem.message ++ place.suffix

namespace Yaml

/-- How far a document has been read: the position among its pieces, and how many
aliases have been followed. -/
structure Progress where
  position : Nat
  followed : Nat

namespace Progress

/-- The progress behind the next piece. -/
def skip (progress : Progress) : Progress :=
  ⟨progress.position + 1, progress.followed⟩

end Progress

/-- How deep collections may nest. -/
def depthLimit : Nat := 128

/-- How many aliases may be followed for each piece of a document. -/
def repetitionLimit : Nat := 100

namespace ValueReader

/-- The result of reading a node. -/
abbrev Outcome := Except YamlFault (Json × Progress)

/-- The piece that comes next. -/
def next (document : Document) (progress : Progress) : Except YamlFault Piece :=
  match document.pieces[progress.position]? with
  | some piece => .ok piece
  | none =>
      match document.fault with
      | some fault => .error (.unreadable fault)
      | none => .error .incomplete

/-- The progress at the target of an alias. -/
def follow (document : Document) (target : Nat) (progress : Progress) :
    Except YamlFault Progress :=
  if document.pieces.size * repetitionLimit ≤ progress.followed then .error .repeatedTooOften
  else .ok ⟨(document.targets.lookup target).getD document.pieces.size, progress.followed + 1⟩

/-- Is this a tag of the document's own? -/
def isLocal (tag : Option Octets) : Bool :=
  match tag with
  | some (mark :: rest) => mark == 33 && (ByteArray.mk rest.toArray).validateUTF8
  | _ => false

/-- Is this the tag of one of the standard types? -/
def isStandard (tag : Option Octets) (name : String) : Bool :=
  tag == some (octetsOf ("tag:yaml.org,2002:" ++ name))

/-- The value of a text, or a problem without it. -/
def orProblem (problem : ValueProblem) (value : Option Json) : Except ValueProblem Json :=
  match value with
  | some value => .ok value
  | none => .error problem

/-- The value of a scalar.  A standard tag decides the type; other tags make a
plain scalar a text, unless they are the document's own. -/
def scalarValue (tag : Option Octets) (style : ScalarStyle) (text : String) :
    Except ValueProblem Json :=
  if isLocal tag then .error .localTag
  else if isStandard tag "bool" then
    orProblem (.notBoolean text) ((PlainValue.boolean? text).map .boolean)
  else if isStandard tag "int" then
    match PlainValue.integer? text.toList with
    | some value => orProblem .outOfRange (PlainValue.number? value)
    | none => .error (.notInteger text)
  else if isStandard tag "float" then orProblem (.notReal text) (PlainValue.real? text)
  else if isStandard tag "null" then
    if PlainValue.isNull text then .ok .null else .error (.notNull text)
  else
    let isPlain := style == .plain && (tag.isNone || (tag.bind List.head?) == some 33)
    if isPlain then orProblem .outOfRange (PlainValue.resolve? text)
    else .ok (.string text)

/-- The elements of a sequence up to its end.  Every turn goes on among the
pieces, so their number bounds the turns. -/
def readElements (document : Document) (path : NodePath)
    (read : NodePath → Progress → Outcome) :
    Nat → List Json → Progress → Outcome
  | 0, taken, progress => .ok (.array taken.reverse, progress)
  | fuel + 1, taken, progress =>
      match next document progress with
      | .error fault => .error fault
      | .ok ⟨.sequenceEnd, _⟩ => .ok (.array taken.reverse, progress.skip)
      | .ok _ =>
          match read (.element path taken.length) progress with
          | .error fault => .error fault
          | .ok (item, progress) =>
              readElements document path read fuel (item :: taken) progress

/-- The text of a key, and the piece as a key. -/
def keyText (path : NodePath) (isFirst : Bool) (piece : Piece) : Except YamlFault String :=
  let fault (isMapping : Bool) : Except YamlFault String :=
    .error (.noValue (.keyNotScalar isFirst isMapping) path piece.place)
  match piece.kind with
  | .scalar _ _ text => .ok text
  | .mappingStart _ => fault true
  | _ => fault false

/-- The key that comes next, the path to its value, and the progress behind it. -/
def readKey (document : Document) (path : NodePath) (isFirst : Bool) (piece : Piece)
    (progress : Progress) : Except YamlFault (String × NodePath × Progress) := do
  match piece.kind with
  | .aliasLabel target =>
      let inside ← follow document target progress
      let key ← keyText (.followed path) isFirst (← next document inside)
      return (key, .unnamed path, ⟨progress.position + 1, inside.followed⟩)
  | _ =>
      let key ← keyText path isFirst piece
      return (key, .member path key, progress.skip)

/-- The members of a mapping up to its end.  Every turn goes on among the pieces,
so their number bounds the turns. -/
def readMembers (document : Document) (path : NodePath)
    (read : NodePath → Progress → Outcome) :
    Nat → List (String × Json) → Progress → Outcome
  | 0, taken, progress => .ok (.object (entriesOf taken.reverse), progress)
  | fuel + 1, taken, progress =>
      match next document progress with
      | .error fault => .error fault
      | .ok ⟨.mappingEnd, _⟩ => .ok (.object (entriesOf taken.reverse), progress.skip)
      | .ok piece =>
          match readKey document path taken.isEmpty piece progress with
          | .error fault => .error fault
          | .ok (key, inner, progress) =>
              match read inner progress with
              | .error fault => .error fault
              | .ok (value, progress) =>
                  readMembers document path read fuel ((key, value) :: taken) progress

/-- The value of a piece that is no alias; `readInside` reads the nodes of a
collection, unless it lies too deep. -/
def readPiece (document : Document) (readInside : Option (NodePath → Progress → Outcome))
    (path : NodePath) (piece : Piece) (progress : Progress) : Outcome :=
  let fault (problem : ValueProblem) : Outcome := .error (.noValue problem path piece.place)
  match piece.kind, readInside with
  | .scalar tag style text, _ =>
      match scalarValue tag style text with
      | .ok value => .ok (value, progress.skip)
      | .error problem => fault problem
  | .sequenceStart tag, some read =>
      if isLocal tag then fault .localTag
      else readElements document path read document.pieces.size [] progress.skip
  | .mappingStart tag, some read =>
      if isLocal tag then fault .localTag
      else readMembers document path read document.pieces.size [] progress.skip
  | .sequenceStart tag, none =>
      if isLocal tag then fault .localTag else .error (.nestedTooDeep piece.place)
  | .mappingStart tag, none =>
      if isLocal tag then fault .localTag else .error (.nestedTooDeep piece.place)
  | _, _ => .error .incomplete

/-- The value of a node that may be an alias. -/
def readAt (document : Document) (readInside : Option (NodePath → Progress → Outcome))
    (path : NodePath) (progress : Progress) : Outcome := do
  let piece ← next document progress
  match piece.kind with
  | .aliasLabel target =>
      let inside ← follow document target progress
      let (value, inside) ←
        readPiece document readInside (.followed path) (← next document inside) inside
      return (value, ⟨progress.position + 1, inside.followed⟩)
  | _ => readPiece document readInside path piece progress

/-- The value of a node around which `depth` more collections may be opened. -/
def readNode (document : Document) : Nat → NodePath → Progress → Outcome
  | 0 => readAt document none
  | depth + 1 => readAt document (some (readNode document depth))

/-- The value of a whole document; a text without nodes is null. -/
def readDocument (document : Document) : Except YamlFault Json :=
  if document.pieces.isEmpty && document.fault.isNone then .ok .null
  else (readNode document depthLimit .root ⟨0, 0⟩).map (·.1)

end ValueReader

/-- Read a text as a document.  A fault in a value comes before one in the syntax
behind it. -/
def read (text : String) : Except YamlFault Json := do
  let document := Document.ofText text
  let value ← ValueReader.readDocument document
  match document.fault with
  | some fault => .error (.unreadable fault)
  | none => if document.isFollowed then .error .severalDocuments else return value

end Yaml

end Pipewright
