import Pipewright.Schema.Node

/-!
# Schema forms

A schema is written as a boolean, as an object of keywords, or as a list of the
keywords' values in their fixed order.  `Form.read?` recognizes written schemas
and `Form.toNode` gives the node that a form describes.

A document is read from its leaves upwards: for each value it is known whether it
is a form, a list of forms or a table of forms before its container is read.
-/

namespace Pipewright

/-- How the elements of an array are described. -/
inductive ItemsForm (α : Type) where
  | absent
  | single (form : α)
  | tuple (forms : List α)
deriving Repr

/-- The values of the keywords of a schema. -/
structure KeywordValues (α : Type) where
  types : List PrimitiveType
  reference : Option String
  oneOf : List α
  anyOf : List α
  allOf : List α
  properties : List (String × α)
  patternProperties : List (String × α)
  additional : Option α
  items : ItemsForm α
  enumValues : Option (List Json)
  constValue : Option Json
  required : List String
  definitions : List (String × α)
  localDefinitions : List (String × α)
deriving Repr

/-- The values where no keyword is written. -/
def KeywordValues.absent {α : Type} : KeywordValues α where
  types := []
  reference := none
  oneOf := []
  anyOf := []
  allOf := []
  properties := []
  patternProperties := []
  additional := none
  items := .absent
  enumValues := none
  constValue := none
  required := []
  definitions := []
  localDefinitions := []

/-- A written schema. -/
inductive Form where
  | boolean (value : Bool)
  | keywords (values : KeywordValues Form)
deriving Repr

/-- The keywords of a schema. -/
inductive Keyword where
  | types
  | reference
  | oneOf
  | anyOf
  | allOf
  | properties
  | patternProperties
  | additionalProperties
  | items
  | enumeration
  | constant
  | required
  | definitions
  | localDefinitions
deriving DecidableEq, Repr

namespace Keyword

/-- Every keyword, in the order in which a list gives their values. -/
def all : List Keyword :=
  [.types, .reference, .oneOf, .anyOf, .allOf, .properties, .patternProperties,
    .additionalProperties, .items, .enumeration, .constant, .required, .definitions,
    .localDefinitions]

/-- The key under which an object gives a keyword's value. -/
def name : Keyword → String
  | .types => "type"
  | .reference => "$ref"
  | .oneOf => "oneOf"
  | .anyOf => "anyOf"
  | .allOf => "allOf"
  | .properties => "properties"
  | .patternProperties => "patternProperties"
  | .additionalProperties => "additionalProperties"
  | .items => "items"
  | .enumeration => "enum"
  | .constant => "const"
  | .required => "required"
  | .definitions => "definitions"
  | .localDefinitions => "$defs"

/-- The keyword of a key. -/
def ofName? (name : String) : Option Keyword :=
  all.find? (·.name == name)

end Keyword

namespace Form

/-- What a value of a document can be read as. -/
structure Reading where
  source : Json
  form? : Option Form
  forms? : Option (List Form)
  table? : Option (List (String × Form))

/-- A type tag: its name, or an object with the name as only key and `null` as
value. -/
def tag? : Json → Option PrimitiveType
  | .string name => PrimitiveType.ofName? name
  | .object [(name, .null)] => PrimitiveType.ofName? name
  | _ => none

/-- The value of `type`: one tag or a list of tags. -/
def types? (value : Json) : Option (List PrimitiveType) :=
  match tag? value with
  | some tag => some [tag]
  | none =>
      match value with
      | .array items => items.mapM tag?
      | _ => none

/-- A string. -/
def text? : Json → Option String
  | .string text => some text
  | _ => none

/-- A list of strings. -/
def texts? : Json → Option (List String)
  | .array items => items.mapM text?
  | _ => none

/-- The value of `items`: a form, else a list of forms. -/
def items? (reading : Reading) : Option (ItemsForm Form) :=
  match reading.form? with
  | some form => some (.single form)
  | none => reading.forms?.map .tuple

/-- Read an optional value, where `null` says that it is absent. -/
def optional? {α : Type} (source : Json) (read : Option α) : Option (Option α) :=
  match source with
  | .null => some none
  | _ => read.map some

/-- Set a keyword to a value. -/
def setKeyword? (values : KeywordValues Form) (keyword : Keyword) (reading : Reading) :
    Option (KeywordValues Form) :=
  match keyword with
  | .types => (optional? reading.source (types? reading.source)).map fun types =>
      { values with types := types.getD [] }
  | .reference => (optional? reading.source (text? reading.source)).map fun reference =>
      { values with reference := reference }
  | .oneOf => reading.forms?.map fun forms => { values with oneOf := forms }
  | .anyOf => reading.forms?.map fun forms => { values with anyOf := forms }
  | .allOf => reading.forms?.map fun forms => { values with allOf := forms }
  | .properties => reading.table?.map fun table => { values with properties := table }
  | .patternProperties =>
      reading.table?.map fun table => { values with patternProperties := table }
  | .additionalProperties => (optional? reading.source reading.form?).map fun additional =>
      { values with additional := additional }
  | .items => (optional? reading.source (items? reading)).map fun items =>
      { values with items := items.getD .absent }
  | .enumeration =>
      match reading.source with
      | .null => some { values with enumValues := none }
      | .array items => some { values with enumValues := some items }
      | _ => none
  | .constant => some { values with constValue := some reading.source }
  | .required => (texts? reading.source).map fun names => { values with required := names }
  | .definitions => reading.table?.map fun table => { values with definitions := table }
  | .localDefinitions =>
      reading.table?.map fun table => { values with localDefinitions := table }

/-- The form of an object: other keys than keywords do not count. -/
def ofMembers? (members : List (String × Reading)) : Option Form :=
  let values := members.foldlM
    (fun values member =>
      match Keyword.ofName? member.1 with
      | some keyword => setKeyword? values keyword member.2
      | none => some values)
    KeywordValues.absent
  values.map .keywords

/-- The form of a list: the keywords' values in order, as many as there are. -/
def ofItems? (items : List Reading) : Option Form :=
  if Keyword.all.length < items.length then none
  else
    let values := (Keyword.all.zip items).foldlM
      (fun values entry => setKeyword? values entry.1 entry.2)
      KeywordValues.absent
    values.map .keywords

mutual

/-- What a document can be read as. -/
def reading : Json → Reading
  | .boolean value => ⟨.boolean value, some (.boolean value), none, none⟩
  | .array items =>
      let inner := readings items
      ⟨.array items, ofItems? inner, inner.mapM (·.form?), none⟩
  | .object members =>
      let inner := memberReadings members
      ⟨.object members, ofMembers? inner, none,
        inner.mapM fun member => member.2.form?.map fun form => (member.1, form)⟩
  | other => ⟨other, none, none, none⟩

/-- What the elements of a list can be read as. -/
def readings : List Json → List Reading
  | [] => []
  | item :: rest => reading item :: readings rest

/-- What the members of an object can be read as. -/
def memberReadings : List (String × Json) → List (String × Reading)
  | [] => []
  | (key, value) :: rest => (key, reading value) :: memberReadings rest

end

/-- Recognize a written schema. -/
def read? (source : Json) : Option Form :=
  (reading source).form?

/-- The values that are allowed, by list or by a single constant; the list
counts first. -/
def allowedValues (listed : Option (List Json)) (constant : Option Json) : Option (List Json) :=
  match listed, constant with
  | some values, _ => some values
  | none, some value => some [value]
  | none, none => none

mutual

/-- The node that a form describes. -/
def toNode : Form → Node
  | .boolean true => Node.any
  | .boolean false => Node.nothing
  | .keywords ⟨types, reference, oneOf, anyOf, allOf, properties, patternProperties, additional,
      items, enumValues, constValue, required, _, _⟩ =>
      { types := types
        reference := reference
        oneOf := toNodes oneOf
        anyOf := toNodes anyOf
        allOf := toNodes allOf
        properties := toTable properties
        patterns := toPatterns patternProperties
        additional := toAdditional additional
        items := toItems items
        enumValues := allowedValues enumValues constValue
        required := required
        never := false }

/-- The nodes that some forms describe. -/
def toNodes : List Form → List Node
  | [] => []
  | form :: rest => form.toNode :: toNodes rest

/-- The nodes that a table of forms describes. -/
def toTable : List (String × Form) → List (String × Node)
  | [] => []
  | (key, form) :: rest => (key, form.toNode) :: toTable rest

/-- The nodes behind patterns; a rejected pattern is left out. -/
def toPatterns : List (String × Form) → List (Pattern × Node)
  | [] => []
  | (source, form) :: rest =>
      match Pattern.compile source with
      | .ok pattern => (pattern, form.toNode) :: toPatterns rest
      | .error _ => toPatterns rest

/-- What a form says about additional keys. -/
def toAdditional : Option Form → Additional Node
  | none => .any
  | some (.boolean true) => .any
  | some (.boolean false) => .forbidden
  | some form => .schema form.toNode

/-- The node for the elements of an array; a list of forms says nothing. -/
def toItems : ItemsForm Form → Option Node
  | .single form => some form.toNode
  | .tuple _ => none
  | .absent => none

end

end Form

end Pipewright
