import Pipewright.Resolve
import Pipewright.Rules.Table

/-!
# Deriving shape rules

A property gets a rule when its schema admits a lone scalar beside a richer form
of it.  Rules depend on the schema alone.  Of several properties with one name
the first one that derives a rule decides, in the order in which the schema is
written: the root and then the definitions, and in each node its own properties
before the nodes below it.  Links of wrapping rules that form a loop are cut.
-/

namespace Pipewright

namespace Node

mutual

/-- The properties declared in a node and below it, in order. -/
def declaredProperties : Node → List (String × Node)
  | ⟨_, _, oneOf, anyOf, allOf, properties, patterns, additional, items, _, _, _⟩ =>
      properties ++ declaredInTable properties ++ declaredInPatterns patterns ++
        declaredInAdditional additional ++ declaredInItems items ++
        declaredInAll oneOf ++ declaredInAll anyOf ++ declaredInAll allOf

/-- The properties declared in some nodes. -/
def declaredInAll : List Node → List (String × Node)
  | [] => []
  | node :: rest => node.declaredProperties ++ declaredInAll rest

/-- The properties declared below the properties of a node. -/
def declaredInTable : List (String × Node) → List (String × Node)
  | [] => []
  | (_, node) :: rest => node.declaredProperties ++ declaredInTable rest

/-- The properties declared behind patterns. -/
def declaredInPatterns : List (Pattern × Node) → List (String × Node)
  | [] => []
  | (_, node) :: rest => node.declaredProperties ++ declaredInPatterns rest

/-- The properties declared for additional keys. -/
def declaredInAdditional : Additional Node → List (String × Node)
  | .schema node => node.declaredProperties
  | .any => []
  | .forbidden => []

/-- The properties declared for elements. -/
def declaredInItems : Option Node → List (String × Node)
  | some node => node.declaredProperties
  | none => []

end

/-- The first of some fields that is a property of the node. -/
def wrapperField? (node : Node) (fields : List String) : Option String :=
  fields.find? fun field => (node.properties.lookup field).isSome

end Node

namespace Schema

/-- The node behind references, if it can be reached. -/
def reachable? (schema : Schema) (node : Node) : Option Node :=
  match schema.resolve node with
  | .ok found => found
  | .error _ => none

/-- Are the elements of an array lone scalars of a compatible type? -/
def itemsAre (schema : Schema) (array : Node) (scalar : PrimitiveType) : Bool :=
  match array.items.bind fun items => (schema.reachable? items).bind (·.bareScalarType?) with
  | some tag => tag.compatible scalar
  | none => false

/-- The rule of a union with one scalar among its alternatives: an array of such
scalars comes before an object with a wrapper field. -/
def promotion? (schema : Schema) (wrapperFields : List String) (scalar : PrimitiveType)
    (alternatives : List Node) : Option Rule :=
  if alternatives.any fun node => node.types == [.array] && schema.itemsAre node scalar then
    some .promoteToArray
  else
    let objects := alternatives.filter fun node =>
      node.isObjectLike && node.bareScalarType?.isNone
    (objects.findSome? (·.wrapperField? wrapperFields)).map .wrapInObject

/-- The rule that a property derives.  A list of types is a union of its types. -/
def ruleFor? (schema : Schema) (wrapperFields : List String) (property : Node) : Option Rule :=
  match schema.reachable? property with
  | none => none
  | some property =>
      if property.isUnion then
        let alternatives := property.alternatives.filterMap schema.reachable?
        match alternatives.filterMap (·.bareScalarType?) with
        | [scalar] => schema.promotion? wrapperFields scalar alternatives
        | _ => none
      else
        match property.types.filter (·.isPromotable) with
        | [scalar] =>
            if property.declares .array && schema.itemsAre property scalar then
              some .promoteToArray
            else if property.declares .object then
              (property.wrapperField? wrapperFields).map .wrapInObject
            else none
        | _ => none

/-- Every declared property of a schema, the root's first. -/
def declaredProperties (schema : Schema) : List (String × Node) :=
  schema.root.declaredProperties ++
    schema.definitions.flatMap fun definition => definition.2.declaredProperties

/-- The rules of all declared properties, the first of each name, with the links
still uncut. -/
def scannedRules (schema : Schema) (wrapperFields : List String) : RuleTable :=
  schema.declaredProperties.foldl
    (fun table property =>
      match schema.ruleFor? wrapperFields property.2 with
      | some rule => table.addIfAbsent property.1 rule
      | none => table)
    RuleTable.empty

/-- The rule table of a schema. -/
def deriveRules (schema : Schema) (wrapperFields : List String) : RuleTable :=
  (schema.scannedRules wrapperFields).cutLoops

end Schema

/-- The fields that scalars are wrapped under where nothing else is said. -/
def standardWrapperFields : List String :=
  ["name", "group"]

end Pipewright
