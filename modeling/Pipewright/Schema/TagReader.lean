import Pipewright.Json.Text
import Pipewright.Schema.PrimitiveType
import Pipewright.Unicode.Visible

/-!
# Reading type tags

Type tags, lists of them and tables of such lists are read from documents.  A
fault tells the place in the document and what was found there.
-/

namespace Pipewright

/-- A step towards a part of a document. -/
inductive PlaceStep where
  | key (name : String)
  | index (position : Nat)
deriving DecidableEq, Repr

/-- What a reader expected. -/
inductive Expectation where
  | tag
  | sequence
  | table
  | unit
deriving DecidableEq, Repr

/-- Why a value is not what a reader expected. -/
inductive TagCause where
  | wrongKind (found : Json) (expected : Expectation)
  | notSingleKey
  | unknownTag (name : String)

/-- A fault at a place of a document. -/
structure TagFault where
  path : List PlaceStep
  cause : TagCause

namespace TagFault

/-- The text of a path: keys are separated by points and positions stand in
brackets.  The path of the whole document is a point. -/
def pathText (path : List PlaceStep) : String :=
  match path with
  | [] => "."
  | path =>
      let written := path.foldl
        (fun (text, separator) step =>
          match step with
          | .key name => (text ++ separator ++ name, ".")
          | .index position => (text ++ "[" ++ toString position ++ "]", "."))
        ("", "")
      written.1

/-- The words for what an expectation expects. -/
def expectationText : Expectation → String
  | .tag => "string or map"
  | .sequence => "a sequence"
  | .table => "a map"
  | .unit => "unit"

/-- The words for a value that was found. -/
def foundText : Json → String
  | .null => "null"
  | .boolean value => "boolean `" ++ toString value ++ "`"
  | .number (.integer value) => "integer `" ++ toString value ++ "`"
  | .number (.real value) =>
      "floating point `" ++ String.ofList (Json.realLayout.write value) ++ "`"
  | .string text => "string " ++ Visible.quote text
  | .array _ => "sequence"
  | .object _ => "map"

/-- The wording of a cause. -/
def causeText : TagCause → String
  | .wrongKind found expected =>
      "invalid type: " ++ foundText found ++ ", expected " ++ expectationText expected
  | .notSingleKey => "invalid value: map, expected map with a single key"
  | .unknownTag name =>
      "unknown variant `" ++ name ++ "`, expected one of " ++
        String.intercalate ", " (PrimitiveType.all.map fun tag => "`" ++ tag.name ++ "`")

/-- The wording of a fault with its place. -/
def message (fault : TagFault) : String :=
  "at JSON path " ++ pathText fault.path ++ " → " ++ causeText fault.cause

/-- The fault seen from the container that holds its value. -/
def under (step : PlaceStep) (fault : TagFault) : TagFault :=
  { fault with path := step :: fault.path }

end TagFault

namespace TagReader

/-- The tag of a name. -/
def ofName (name : String) : Except TagFault PrimitiveType :=
  match PrimitiveType.ofName? name with
  | some tag => .ok tag
  | none => .error ⟨[], .unknownTag name⟩

/-- A tag: its name, or an object with the name as only key and `null` as
value. -/
def tag (value : Json) : Except TagFault PrimitiveType :=
  match value with
  | .string name => ofName name
  | .object [(name, content)] =>
      match ofName name, content with
      | .ok tag, .null => .ok tag
      | .ok _, content => .error ⟨[.key name], .wrongKind content .unit⟩
      | .error fault, _ => .error fault
  | .object _ => .error ⟨[], .notSingleKey⟩
  | other => .error ⟨[], .wrongKind other .tag⟩

/-- Read the elements of a list from position `position` on. -/
def items {α : Type} (read : Json → Except TagFault α) (position : Nat) :
    List Json → Except TagFault (List α)
  | [] => .ok []
  | item :: rest => do
      let first ← (read item).mapError (TagFault.under (.index position))
      return first :: (← items read (position + 1) rest)

/-- Read the values of a table. -/
def entries {α : Type} (read : Json → Except TagFault α) :
    List (String × Json) → Except TagFault (List (String × α))
  | [] => .ok []
  | (key, value) :: rest => do
      let first ← (read value).mapError (TagFault.under (.key key))
      return (key, first) :: (← entries read rest)

/-- A list of tags. -/
def tags (value : Json) : Except TagFault (List PrimitiveType) :=
  match value with
  | .array list => items tag 0 list
  | other => .error ⟨[], .wrongKind other .sequence⟩

/-- A table. -/
def table {α : Type} (read : Json → Except TagFault α) (value : Json) :
    Except TagFault (List (String × α)) :=
  match value with
  | .object members => entries read members
  | other => .error ⟨[], .wrongKind other .table⟩

/-- A table of tables of lists of tags. -/
def tagTables (value : Json) : Except TagFault (List (String × List (String × List PrimitiveType))) :=
  table (table tags) value

end TagReader

end Pipewright
