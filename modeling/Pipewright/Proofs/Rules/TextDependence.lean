import Pipewright.Proofs.Json.Injectivity
import Pipewright.Proofs.Resolution.Selection
import Pipewright.Proofs.Schema.Doubles
import Pipewright.Rules.Derivation

/-!
# Rules depend on a schema's text alone

Deriving rules does not look at allowed values, where the doubles of a schema are.  A text
determines its document up to doubles that are written alike, so schemas that are loaded
from documents with one text have the same rules.
-/

namespace Pipewright

variable {change : Binary64 → Binary64}

namespace Node

theorem mapAll_eq_map (nodes : List Node) : mapAll change nodes = nodes.map (mapReals change) := by
  induction nodes with
  | nil => rfl
  | cons node rest inner => rw [mapAll, inner, List.map_cons]

theorem mapTable_eq_map (table : List (String × Node)) :
    mapTable change table = table.map fun entry => (entry.1, entry.2.mapReals change) := by
  induction table with
  | nil => rfl
  | cons entry rest inner => rw [mapTable, inner, List.map_cons]

theorem lookup_mapTable (table : List (String × Node)) (key : String) :
    (mapTable change table).lookup key = (table.lookup key).map (mapReals change) := by
  induction table with
  | nil => rfl
  | cons entry rest inner =>
      rw [mapTable, List.lookup_cons, List.lookup_cons, inner]
      split <;> rfl

theorem isEmpty_mapAll (nodes : List Node) : (mapAll change nodes).isEmpty = nodes.isEmpty := by
  cases nodes <;> rfl

theorem isEmpty_mapTable (table : List (String × Node)) :
    (mapTable change table).isEmpty = table.isEmpty := by
  cases table <;> rfl

theorem isNone_mapItems (items : Option Node) :
    (mapItems change items).isNone = items.isNone := by
  cases items <;> rfl

theorem types_mapReals (node : Node) : (node.mapReals change).types = node.types := by
  cases node
  rfl

theorem reference_mapReals (node : Node) :
    (node.mapReals change).reference = node.reference := by
  cases node
  rfl

theorem properties_mapReals (node : Node) :
    (node.mapReals change).properties = mapTable change node.properties := by
  cases node
  rfl

theorem items_mapReals (node : Node) :
    (node.mapReals change).items = node.items.map (mapReals change) := by
  cases node with
  | mk _ _ _ _ _ _ _ _ items => cases items <;> rfl

theorem isUnion_mapReals (node : Node) : (node.mapReals change).isUnion = node.isUnion := by
  cases node
  simp only [mapReals, isUnion, isEmpty_mapAll]

theorem alternatives_mapReals (node : Node) :
    (node.mapReals change).alternatives = node.alternatives.map (mapReals change) := by
  cases node
  simp only [mapReals, alternatives, isEmpty_mapAll]
  split <;> exact mapAll_eq_map _

theorem declares_mapReals (node : Node) (tag : PrimitiveType) :
    (node.mapReals change).declares tag = node.declares tag := by
  rw [declares, types_mapReals]
  rfl

theorem isObjectLike_mapReals (node : Node) :
    (node.mapReals change).isObjectLike = node.isObjectLike := by
  rw [isObjectLike, declares_mapReals, properties_mapReals, isEmpty_mapTable]
  rfl

theorem bareScalarType?_mapReals (node : Node) :
    (node.mapReals change).bareScalarType? = node.bareScalarType? := by
  cases node
  simp only [mapReals, bareScalarType?, isUnion, isEmpty_mapAll, isEmpty_mapTable,
    isNone_mapItems]
  rfl

theorem wrapperField?_mapReals (node : Node) (fields : List String) :
    (node.mapReals change).wrapperField? fields = node.wrapperField? fields := by
  simp only [wrapperField?, properties_mapReals, lookup_mapTable, Option.isSome_map]

mutual

theorem declaredProperties_mapReals : (node : Node) →
    (node.mapReals change).declaredProperties = mapTable change node.declaredProperties
  | ⟨_, _, oneOf, anyOf, allOf, properties, patterns, additional, items, _, _, _⟩ => by
      rw [mapReals, declaredProperties, declaredProperties, declaredInTable_mapReals properties,
        declaredInPatterns_mapReals patterns, declaredInAdditional_mapReals additional,
        declaredInItems_mapReals items, declaredInAll_mapReals oneOf,
        declaredInAll_mapReals anyOf, declaredInAll_mapReals allOf]
      simp only [Schema.mapTable_append]

theorem declaredInAll_mapReals : (nodes : List Node) →
    declaredInAll (mapAll change nodes) = mapTable change (declaredInAll nodes)
  | [] => rfl
  | node :: nodes => by
      rw [mapAll, declaredInAll, declaredInAll, declaredProperties_mapReals node,
        declaredInAll_mapReals nodes, Schema.mapTable_append]

theorem declaredInTable_mapReals : (table : List (String × Node)) →
    declaredInTable (mapTable change table) = mapTable change (declaredInTable table)
  | [] => rfl
  | (_, node) :: table => by
      rw [mapTable, declaredInTable, declaredInTable, declaredProperties_mapReals node,
        declaredInTable_mapReals table, Schema.mapTable_append]

theorem declaredInPatterns_mapReals : (patterns : List (Pattern × Node)) →
    declaredInPatterns (mapPatterns change patterns) =
      mapTable change (declaredInPatterns patterns)
  | [] => rfl
  | (_, node) :: patterns => by
      rw [mapPatterns, declaredInPatterns, declaredInPatterns, declaredProperties_mapReals node,
        declaredInPatterns_mapReals patterns, Schema.mapTable_append]

theorem declaredInAdditional_mapReals : (additional : Additional Node) →
    declaredInAdditional (mapAdditional change additional) =
      mapTable change (declaredInAdditional additional)
  | .any => rfl
  | .forbidden => rfl
  | .schema node => by
      rw [mapAdditional, declaredInAdditional, declaredInAdditional,
        declaredProperties_mapReals node]

theorem declaredInItems_mapReals : (items : Option Node) →
    declaredInItems (mapItems change items) = mapTable change (declaredInItems items)
  | none => rfl
  | some node => by
      rw [mapItems, declaredInItems, declaredInItems, declaredProperties_mapReals node]

end

end Node

namespace Schema

variable {id : String} (schema : Schema)

theorem definition?_mapReals (reference : String) :
    (schema.mapReals change id).definition? reference =
      (schema.definition? reference).map (Node.mapReals change) := by
  unfold definition?
  split
  · rfl
  · exact Node.lookup_mapTable schema.definitions reference

theorem follow_mapReals (chain : List String) (node : Node) :
    (schema.mapReals change id).follow chain (node.mapReals change) =
      (schema.follow chain node).map
        (Option.map fun found => (found.1.mapReals change, found.2)) := by
  fun_induction follow schema chain node with
  | case1 chain node noReference =>
      exact follow_of_no_reference ((Node.reference_mapReals node).trans noReference)
  | case2 chain node reference isReference fresh target found inner =>
      have found' : (schema.mapReals change id).definition? reference =
          some (target.mapReals change) := by
        rw [definition?_mapReals, found]
        rfl
      rw [follow_of_found ((Node.reference_mapReals node).trans isReference)
        (by simpa using fresh) found', inner]
  | case3 chain node reference isReference fresh missing =>
      have missing' : (schema.mapReals change id).definition? reference = none := by
        rw [definition?_mapReals, missing]
        rfl
      rw [follow_of_missing ((Node.reference_mapReals node).trans isReference)
        (by simpa using fresh) missing']
      rfl
  | case4 chain node reference isReference seen =>
      rw [follow_of_seen ((Node.reference_mapReals node).trans isReference)
        (by simpa using seen)]
      rfl

theorem reachable?_mapReals (node : Node) :
    (schema.mapReals change id).reachable? (node.mapReals change) =
      (schema.reachable? node).map (Node.mapReals change) := by
  unfold reachable? resolve
  rw [follow_mapReals]
  cases schema.follow [] node with
  | error _ => rfl
  | ok found => cases found <;> rfl

theorem itemsAre_mapReals (array : Node) (scalar : PrimitiveType) :
    (schema.mapReals change id).itemsAre (array.mapReals change) scalar =
      schema.itemsAre array scalar := by
  unfold itemsAre
  rw [Node.items_mapReals]
  cases array.items with
  | none => rfl
  | some items =>
      simp only [Option.map_some, Option.bind_some, reachable?_mapReals]
      cases schema.reachable? items with
      | none => rfl
      | some found =>
          simp only [Option.map_some, Option.bind_some, Node.bareScalarType?_mapReals]

theorem promotion?_mapReals (wrapperFields : List String) (scalar : PrimitiveType)
    (alternatives : List Node) :
    (schema.mapReals change id).promotion? wrapperFields scalar
        (alternatives.map (Node.mapReals change)) =
      schema.promotion? wrapperFields scalar alternatives := by
  unfold promotion?
  simp only [List.any_map, List.filter_map, List.findSome?_map, Function.comp_def,
    Node.types_mapReals, itemsAre_mapReals, Node.isObjectLike_mapReals,
    Node.bareScalarType?_mapReals, Node.wrapperField?_mapReals]

theorem ruleFor?_mapReals (wrapperFields : List String) (property : Node) :
    (schema.mapReals change id).ruleFor? wrapperFields (property.mapReals change) =
      schema.ruleFor? wrapperFields property := by
  unfold ruleFor?
  rw [reachable?_mapReals]
  cases schema.reachable? property with
  | none => rfl
  | some property =>
      have alternatives : (property.mapReals change).alternatives.filterMap
          (schema.mapReals change id).reachable? =
            (property.alternatives.filterMap schema.reachable?).map (Node.mapReals change) := by
        rw [Node.alternatives_mapReals, List.filterMap_map, List.map_filterMap]
        congr 1
        funext node
        exact reachable?_mapReals schema node
      have scalars : ((property.alternatives.filterMap schema.reachable?).map
          (Node.mapReals change)).filterMap (·.bareScalarType?) =
            (property.alternatives.filterMap schema.reachable?).filterMap
              (·.bareScalarType?) := by
        rw [List.filterMap_map]
        congr 1
        funext node
        exact Node.bareScalarType?_mapReals node
      simp only [Option.map_some, Node.isUnion_mapReals, alternatives, scalars,
        promotion?_mapReals, Node.types_mapReals, Node.declares_mapReals, itemsAre_mapReals,
        Node.wrapperField?_mapReals]

theorem declaredProperties_mapReals :
    (schema.mapReals change id).declaredProperties =
      Node.mapTable change schema.declaredProperties := by
  have definitions : ∀ table : List (String × Node),
      (Node.mapTable change table).flatMap (fun definition => definition.2.declaredProperties) =
        Node.mapTable change
          (table.flatMap fun definition => definition.2.declaredProperties) := by
    intro table
    induction table with
    | nil => rfl
    | cons definition rest inner =>
        rw [Node.mapTable, List.flatMap_cons, List.flatMap_cons, inner, mapTable_append,
          Node.declaredProperties_mapReals]
  unfold declaredProperties
  rw [mapTable_append, ← definitions, ← Node.declaredProperties_mapReals]
  rfl

theorem scannedRules_mapReals (wrapperFields : List String) :
    (schema.mapReals change id).scannedRules wrapperFields =
      schema.scannedRules wrapperFields := by
  unfold scannedRules
  rw [declaredProperties_mapReals, Node.mapTable_eq_map, List.foldl_map]
  simp only [ruleFor?_mapReals]

/-- Rules do not depend on the doubles of a schema, nor on its identity. -/
theorem deriveRules_mapReals (wrapperFields : List String) :
    (schema.mapReals change id).deriveRules wrapperFields = schema.deriveRules wrapperFields := by
  rw [deriveRules, deriveRules, scannedRules_mapReals]

/-- Schemas that are loaded from documents with one text have the same rules. -/
theorem deriveRules_eq_of_compact_eq {source source' : Json} {schema schema' : Schema}
    (loaded : load source = .ok schema) (loaded' : load source' = .ok schema')
    (same : source.compact = source'.compact) (wrapperFields : List String) :
    schema.deriveRules wrapperFields = schema'.deriveRules wrapperFields := by
  have sources : source.mapReals Binary64.reread = source'.mapReals Binary64.reread :=
    Json.mapReals_eq_of_compact_eq Binary64.seesText_reread same
  have reloaded := load_mapReals Binary64.reread loaded
  have reloaded' := load_mapReals Binary64.reread loaded'
  rw [sources, reloaded'] at reloaded
  injection reloaded with schemas
  rw [← deriveRules_mapReals schema wrapperFields, ← schemas, deriveRules_mapReals]

end Schema

end Pipewright
