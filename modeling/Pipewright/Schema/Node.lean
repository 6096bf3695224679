import Pipewright.Pattern.Basic
import Pipewright.Schema.PrimitiveType

/-!
# Schema nodes

A node says which values a place of a document may hold and how its members and
elements are described.  `overlay` merges two nodes; it is what composition
keywords and chosen alternatives come down to.
-/

namespace Pipewright

/-- What a node says about keys that it does not name. -/
inductive Additional (α : Type) where
  | any
  | forbidden
  | schema (node : α)
deriving Repr

/-- A node of a schema. -/
structure Node where
  types : List PrimitiveType
  reference : Option String
  oneOf : List Node
  anyOf : List Node
  allOf : List Node
  properties : List (String × Node)
  patterns : List (Pattern × Node)
  additional : Additional Node
  items : Option Node
  enumValues : Option (List Json)
  required : List String
  never : Bool

namespace Node

/-- The empty node, which admits every value. -/
def any : Node where
  types := []
  reference := none
  oneOf := []
  anyOf := []
  allOf := []
  properties := []
  patterns := []
  additional := .any
  items := none
  enumValues := none
  required := []
  never := false

instance : Inhabited Node := ⟨any⟩

/-- The node that admits no value. -/
def nothing : Node :=
  { any with never := true }

/-- Does the node offer alternatives? -/
def isUnion (node : Node) : Bool :=
  !node.oneOf.isEmpty || !node.anyOf.isEmpty

/-- The alternatives of a union, in order. -/
def alternatives (node : Node) : List Node :=
  if node.oneOf.isEmpty then node.anyOf else node.oneOf

/-- Does the node list this type? -/
def declares (node : Node) (tag : PrimitiveType) : Bool :=
  node.types.contains tag

/-- Does the node describe objects? -/
def isObjectLike (node : Node) : Bool :=
  node.declares .object || !node.properties.isEmpty

/-- Do the listed types, if any, admit the value? -/
def acceptsType (node : Node) (value : Json) : Bool :=
  !node.never && (node.types.isEmpty || node.types.any (·.admits value))

/-- The only type of a node that describes lone values and nothing else. -/
def bareScalarType? (node : Node) : Option PrimitiveType :=
  match node.types with
  | [tag] =>
      if tag.isPromotable && node.properties.isEmpty && node.items.isNone &&
          !node.isUnion && node.allOf.isEmpty then
        some tag
      else none
  | _ => none

/-- The node of the first pattern that accepts a key. -/
def patternNode? (node : Node) (key : String) : Option Node :=
  (node.patterns.find? fun entry => entry.1.accepts key).map (·.2)

/-- The node for an object key: the property of that name, else the first
pattern that accepts it, else what is said about additional keys.  A forbidden
key has none. -/
def propertyNode? (node : Node) (key : String) : Option Node :=
  match node.properties.lookup key with
  | some property => some property
  | none =>
      match node.patternNode? key with
      | some property => some property
      | none =>
          match node.additional with
          | .any => some any
          | .forbidden => none
          | .schema property => some property

/-- The node for the elements of an array. -/
def itemNode (node : Node) : Node :=
  node.items.getD any

/-- The names of the second list that the first one lacks are added to it. -/
def addNames (names more : List String) : List String :=
  more.foldl (fun names name => if names.contains name then names else names ++ [name]) names

/-- Merge a node over another one: what the upper node says replaces what the
lower one says, properties by name, while patterns and required names
accumulate.  Composition keywords are dropped. -/
def overlay (lower upper : Node) : Node where
  types := if upper.types.isEmpty then lower.types else upper.types
  reference := none
  oneOf := []
  anyOf := []
  allOf := []
  properties := upper.properties.foldl (fun entries entry => putEntry entries entry.1 entry.2)
    lower.properties
  patterns := lower.patterns ++ upper.patterns
  additional :=
    match upper.additional with
    | .any => lower.additional
    | said => said
  items := if upper.items.isSome then upper.items else lower.items
  enumValues := if upper.enumValues.isSome then upper.enumValues else lower.enumValues
  required := addNames lower.required upper.required
  never := lower.never || upper.never

/-- The node without its composition keywords. -/
def base (node : Node) : Node :=
  node.overlay any

end Node

end Pipewright
