import Mathlib.Data.List.Basic
import Pipewright.Rules.Derivation

/-!
# The nodes of a schema

The nodes written in a schema, each before the nodes below it: those of its properties
first, then behind patterns, for additional keys, for elements, and in its composition
keywords.
-/

namespace Pipewright

/-- What is said about additional keys, as a list of at most one node. -/
def Additional.toList {α : Type} : Additional α → List α
  | .schema node => [node]
  | .any => []
  | .forbidden => []

namespace Node

/-- The nodes directly below a node, in order. -/
def children (node : Node) : List Node :=
  node.properties.map (·.2) ++ node.patterns.map (·.2) ++ node.additional.toList ++
    node.items.toList ++ node.oneOf ++ node.anyOf ++ node.allOf

theorem sizeOf_lt_of_mem_values {κ : Type} [SizeOf κ] {entries : List (κ × Node)} {child : Node}
    (listed : child ∈ entries.map (·.2)) : sizeOf child < sizeOf entries := by
  obtain ⟨⟨key, node⟩, place, rfl⟩ := List.mem_map.mp listed
  have entrySmaller := List.sizeOf_lt_of_mem place
  rw [Prod.mk.sizeOf_spec] at entrySmaller
  simp only
  omega

theorem sizeOf_lt_of_mem_children {node child : Node} (below : child ∈ node.children) :
    sizeOf child < sizeOf node := by
  obtain ⟨types, reference, oneOf, anyOf, allOf, properties, patterns, additional, items,
    enumValues, required, never⟩ := node
  simp only [children, List.mem_append] at below
  simp only [Node.mk.sizeOf_spec]
  rcases below with (((((property | pattern) | further) | element) | one) | other) | branch
  · have smaller := sizeOf_lt_of_mem_values property
    omega
  · have smaller := sizeOf_lt_of_mem_values pattern
    omega
  · cases additional with
    | schema node =>
        rw [List.mem_singleton.mp further]
        simp +arith
    | any => cases further
    | forbidden => cases further
  · cases items with
    | some node =>
        rw [List.mem_singleton.mp element]
        simp +arith
    | none => cases element
  · have smaller := List.sizeOf_lt_of_mem one
    omega
  · have smaller := List.sizeOf_lt_of_mem other
    omega
  · have smaller := List.sizeOf_lt_of_mem branch
    omega

/-- What holds of a node when it holds of the nodes below it holds of every node. -/
theorem childrenInduction {motive : Node → Prop}
    (step : ∀ node : Node, (∀ child ∈ node.children, motive child) → motive node) (node : Node) :
    motive node :=
  step node fun child _ => childrenInduction step child
termination_by sizeOf node
decreasing_by exact sizeOf_lt_of_mem_children (by assumption)

/-- The node and all nodes below it, each before those below it. -/
def preorder (node : Node) : List Node :=
  node :: node.children.attach.flatMap fun child => preorder child.1
termination_by sizeOf node
decreasing_by exact sizeOf_lt_of_mem_children child.2

theorem preorder_eq (node : Node) : node.preorder = node :: node.children.flatMap preorder := by
  rw [preorder, List.flatMap_def, List.attach_map_val, ← List.flatMap_def]

/-- What holds of the node and of all nodes below it. -/
def Throughout (holds : Node → Prop) (node : Node) : Prop :=
  ∀ inner ∈ node.preorder, holds inner

theorem throughout_iff {holds : Node → Prop} {node : Node} :
    node.Throughout holds ↔ holds node ∧ ∀ child ∈ node.children, child.Throughout holds := by
  unfold Throughout
  rw [preorder_eq, List.forall_mem_cons, List.forall_mem_flatMap]

/-! ## Declared properties -/

theorem declaredInAll_eq (nodes : List Node) :
    declaredInAll nodes = nodes.flatMap declaredProperties := by
  induction nodes with
  | nil => rfl
  | cons node rest inner => rw [declaredInAll, inner, List.flatMap_cons]

theorem declaredInTable_eq (entries : List (String × Node)) :
    declaredInTable entries = (entries.map (·.2)).flatMap declaredProperties := by
  induction entries with
  | nil => rfl
  | cons entry rest inner => rw [declaredInTable, inner, List.map_cons, List.flatMap_cons]

theorem declaredInPatterns_eq (entries : List (Pattern × Node)) :
    declaredInPatterns entries = (entries.map (·.2)).flatMap declaredProperties := by
  induction entries with
  | nil => rfl
  | cons entry rest inner => rw [declaredInPatterns, inner, List.map_cons, List.flatMap_cons]

theorem declaredInAdditional_eq (additional : Additional Node) :
    declaredInAdditional additional = additional.toList.flatMap declaredProperties := by
  cases additional with
  | schema node => exact (List.flatMap_singleton ..).symm
  | any => rfl
  | forbidden => rfl

theorem declaredInItems_eq (items : Option Node) :
    declaredInItems items = items.toList.flatMap declaredProperties := by
  cases items with
  | some node => exact (List.flatMap_singleton ..).symm
  | none => rfl

theorem declaredProperties_eq_children (node : Node) :
    node.declaredProperties = node.properties ++ node.children.flatMap declaredProperties := by
  cases node
  simp only [declaredProperties, children, declaredInAll_eq, declaredInTable_eq,
    declaredInPatterns_eq, declaredInAdditional_eq, declaredInItems_eq, List.flatMap_append,
    List.append_assoc]

/-- The declared properties are those of the nodes in their order. -/
theorem declaredProperties_eq (node : Node) :
    node.declaredProperties = node.preorder.flatMap (·.properties) := by
  induction node using childrenInduction with
  | step node inner =>
      rw [declaredProperties_eq_children, preorder_eq, List.flatMap_cons, List.flatMap_assoc,
        List.flatMap_congr inner]

end Node

namespace Schema

/-- Every node of a schema, the root's first. -/
def nodes (schema : Schema) : List Node :=
  schema.root.preorder ++ schema.definitions.flatMap fun definition => definition.2.preorder

/-- The property nodes of a schema under their names, in the order of the nodes. -/
def propertyNodes (schema : Schema) : List (String × Node) :=
  schema.nodes.flatMap (·.properties)

theorem declaredProperties_eq (schema : Schema) :
    schema.declaredProperties = schema.propertyNodes := by
  simp only [declaredProperties, propertyNodes, nodes, Node.declaredProperties_eq,
    List.flatMap_append, List.flatMap_assoc]

end Schema

end Pipewright
