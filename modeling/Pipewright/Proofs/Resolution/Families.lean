import Pipewright.Proofs.Resolution.Runs
import Pipewright.Proofs.Schema.Layers
import Pipewright.Proofs.Schema.Subnodes

/-!
# Families of nodes

A family of nodes has, with a node, the nodes below it, and it has the nodes that references
name.  Resolution that starts in a family compares the value with nodes of the family alone.
What it finds is merged and need not be in the family, but it describes members and elements
by nodes of the family.
-/

namespace Pipewright

/-- A family has the nodes below its nodes, those that references name, and the empty one. -/
structure Schema.IsFamily (schema : Schema) (family : Node → Prop) : Prop where
  empty : family Node.any
  child : ∀ {node child : Node}, family node → child ∈ node.children → family child
  definition : ∀ {reference : String} {target : Node},
    schema.definition? reference = some target → family target

namespace Node

/-- The nodes for members and elements. -/
def descriptions (node : Node) : List Node :=
  node.properties.map (·.2) ++ node.patterns.map (·.2) ++ node.additional.toList ++
    node.items.toList

/-- Members and elements are described by nodes of the family. -/
def DescribesBy (family : Node → Prop) (node : Node) : Prop :=
  ∀ description ∈ node.descriptions, family description

theorem children_eq (node : Node) :
    node.children = node.descriptions ++ node.oneOf ++ node.anyOf ++ node.allOf :=
  rfl

theorem mem_children_of_mem_alternatives {node alternative : Node}
    (listed : alternative ∈ node.alternatives) : alternative ∈ node.children := by
  unfold alternatives at listed
  rw [children_eq]
  split at listed
  · exact List.mem_append_left _ (List.mem_append_right _ listed)
  · exact List.mem_append_left _ (List.mem_append_left _ (List.mem_append_right _ listed))

theorem mem_children_of_mem_allOf {node branch : Node} (listed : branch ∈ node.allOf) :
    branch ∈ node.children :=
  List.mem_append_right _ listed

theorem mem_children_of_mem_descriptions {node description : Node}
    (listed : description ∈ node.descriptions) : description ∈ node.children :=
  List.mem_append_left _ (List.mem_append_left _ (List.mem_append_left _ listed))

theorem mem_descriptions_iff {node description : Node} :
    description ∈ node.descriptions ↔
      description ∈ node.properties.map (·.2) ∨ description ∈ node.patterns.map (·.2) ∨
        description ∈ node.additional.toList ∨ description ∈ node.items.toList := by
  simp only [descriptions, List.mem_append, or_assoc]

theorem mem_values_of_mem_putEntry {α : Type} {entries : List (String × α)} {key : String}
    {value content : α} (listed : content ∈ (putEntry entries key value).map (·.2)) :
    content ∈ entries.map (·.2) ∨ content = value := by
  induction entries with
  | nil => exact .inr (List.mem_singleton.mp listed)
  | cons entry rest inner =>
      obtain ⟨present, old⟩ := entry
      rw [putEntry] at listed
      split at listed
      · rcases List.mem_cons.mp listed with now | later
        · exact .inr now
        · exact .inl (List.mem_cons_of_mem _ later)
      · rcases List.mem_cons.mp listed with now | later
        · exact .inl (now ▸ List.mem_cons_self)
        · exact (inner later).imp_left (List.mem_cons_of_mem _)

theorem mem_values_of_mem_putEntries {α : Type} {entries more : List (String × α)} {content : α}
    (listed : content ∈ (putEntries entries more).map (·.2)) :
    content ∈ entries.map (·.2) ∨ content ∈ more.map (·.2) := by
  induction more generalizing entries with
  | nil => exact .inl listed
  | cons entry more inner =>
      rcases inner listed with early | late
      · rcases mem_values_of_mem_putEntry early with before | rfl
        · exact .inl before
        · exact .inr List.mem_cons_self
      · exact .inr (List.mem_cons_of_mem _ late)

theorem mem_descriptions_of_overlay {lower upper description : Node}
    (listed : description ∈ (lower.overlay upper).descriptions) :
    description ∈ lower.descriptions ∨ description ∈ upper.descriptions := by
  simp only [mem_descriptions_iff] at listed ⊢
  rcases listed with property | pattern | further | element
  · exact (mem_values_of_mem_putEntries property).imp .inl .inl
  · rw [patterns_overlay, List.map_append, List.mem_append] at pattern
    exact pattern.imp (.inr ∘ .inl) (.inr ∘ .inl)
  · rw [additional_overlay] at further
    cases said : upper.additional <;> simp only [said] at further
    · exact .inl (.inr (.inr (.inl further)))
    · cases further
    · exact .inr (.inr (.inr (.inl further)))
  · rw [items_overlay] at element
    cases said : upper.items <;> simp only [said, Option.none_or, Option.some_or] at element
    · exact .inl (.inr (.inr (.inr element)))
    · exact .inr (.inr (.inr (.inr element)))

variable {family : Node → Prop}

theorem DescribesBy.overlay {lower upper : Node} (below : lower.DescribesBy family)
    (above : upper.DescribesBy family) : (lower.overlay upper).DescribesBy family := by
  intro description listed
  exact (mem_descriptions_of_overlay listed).elim (below description) (above description)

theorem DescribesBy.base {node : Node} (describes : node.DescribesBy family) :
    node.base.DescribesBy family :=
  describes.overlay fun _ listed => nomatch listed

end Node

namespace Schema.IsFamily

variable {schema : Schema} {family : Node → Prop} (isFamily : schema.IsFamily family)

include isFamily

theorem alternative {node : Node} (inside : family node) :
    ∀ alternative ∈ node.alternatives, family alternative :=
  fun _ listed => isFamily.child inside (Node.mem_children_of_mem_alternatives listed)

theorem branch {node : Node} (inside : family node) : ∀ branch ∈ node.allOf, family branch :=
  fun _ listed => isFamily.child inside (Node.mem_children_of_mem_allOf listed)

theorem describesBy {node : Node} (inside : family node) : node.DescribesBy family :=
  fun _ listed => isFamily.child inside (Node.mem_children_of_mem_descriptions listed)

theorem propertyNode? {node child : Node} {key : String} (describes : node.DescribesBy family)
    (found : node.propertyNode? key = some child) : family child := by
  have described : ∀ description, description ∈ node.properties.map (·.2) ∨
      description ∈ node.patterns.map (·.2) ∨ description ∈ node.additional.toList ∨
        description ∈ node.items.toList → family description :=
    fun description listed => describes description (Node.mem_descriptions_iff.mpr listed)
  unfold Node.propertyNode? at found
  split at found
  · next property looked =>
      cases found
      exact described _ (.inl (List.mem_map_of_mem (mem_of_lookup looked)))
  · split at found
    · next pattern matched =>
        cases found
        obtain ⟨entry, looked, rfl⟩ := Option.map_eq_some_iff.mp matched
        exact described _ (.inr (.inl (List.mem_map_of_mem (List.mem_of_find?_eq_some looked))))
    · split at found
      · cases found
        exact isFamily.empty
      · cases found
      · next further said =>
          cases found
          refine described _ (.inr (.inr (.inl ?_)))
          rw [said]
          exact List.mem_singleton_self _

theorem itemNode {node : Node} (describes : node.DescribesBy family) : family node.itemNode := by
  unfold Node.itemNode
  cases said : node.items with
  | none => exact isFamily.empty
  | some element =>
      refine describes element (Node.mem_descriptions_iff.mpr (.inr (.inr (.inr ?_))))
      rw [said]
      exact List.mem_singleton_self _

end Schema.IsFamily

namespace Schema

variable {schema : Schema} {family : Node → Prop} {value : Json}

theorem Follows.inFamily (isFamily : schema.IsFamily family) {stack after : List String}
    {node target : Node} (follows : schema.Follows stack node (.ok (some target)) after)
    (inside : family node) : family target :=
  follow_keeps family isFamily.definition inside follows.follow_eq

mutual

/-- Resolution that starts in a family finds a node that describes by the family. -/
theorem Effective.describesBy (isFamily : schema.IsFamily family) {stack after : List String}
    {node found : Node} {outcome : Resolved (Option Node)} :
    schema.Effective value stack node outcome after → family node →
      outcome = .ok (some found) → found.DescribesBy family
  | .cut step, inside, finds => step.describesBy isFamily inside finds

theorem EffectiveStep.describesBy (isFamily : schema.IsFamily family)
    {stack after : List String} {node found : Node} {outcome : Resolved (Option Node)} :
    schema.EffectiveStep value stack node outcome after → family node →
      outcome = .ok (some found) → found.DescribesBy family
  | .merged follows merges chooses, inside, finds => by
      have target := follows.inFamily isFamily inside
      refine chooses.describesBy isFamily (merges.describesBy isFamily target rfl) ?_ finds
      rw [merges.alternatives_eq]
      exact isFamily.alternative target

theorem Merges.describesBy (isFamily : schema.IsFamily family) {stack after : List String}
    {node merged : Node} {outcome : Resolved Node} :
    schema.Merges value stack node outcome after → family node → outcome = .ok merged →
      merged.DescribesBy family
  | .plain _, inside, merges => by
      cases merges
      exact isFamily.describesBy inside
  | .merged _ combines, inside, merges => by
      cases merges
      exact (combines.describesBy isFamily (isFamily.describesBy inside).base
        (isFamily.branch inside) rfl :)

theorem MergesOver.describesBy (isFamily : schema.IsFamily family) {stack after : List String}
    {merged result : Node} {branches : List Node} {outcome : Resolved Node} :
    schema.MergesOver value stack merged branches outcome after →
      merged.DescribesBy family → (∀ branch ∈ branches, family branch) →
      outcome = .ok result → result.DescribesBy family
  | .done, describes, _, merges => by
      cases merges
      exact describes
  | .skipped _ rest, describes, inside, merges =>
      rest.describesBy isFamily describes (List.forall_mem_cons.mp inside).2 merges
  | .overlaid effective rest, describes, inside, merges => by
      obtain ⟨first, others⟩ := List.forall_mem_cons.mp inside
      exact rest.describesBy isFamily
        (describes.overlay (effective.describesBy isFamily first rfl)) others merges

theorem Chooses.describesBy (isFamily : schema.IsFamily family) {stack after : List String}
    {node found : Node} {outcome : Resolved (Option Node)} :
    schema.Chooses value stack node outcome after → node.DescribesBy family →
      (∀ alternative ∈ node.alternatives, family alternative) →
      outcome = .ok (some found) → found.DescribesBy family
  | .single _, describes, _, finds => by
      rw [eq_of_keepIfAccepted (Except.ok.inj finds)]
      exact describes
  | .chosen _ _ atPosition effective, describes, inside, finds => by
      rw [eq_of_keepIfAccepted (Except.ok.inj finds)]
      exact describes.base.overlay (effective.describesBy isFamily
        (inside _ (List.mem_of_getElem? atPosition)) rfl)

end

theorem IsFamily.effective (isFamily : schema.IsFamily family) {node found : Node}
    (inside : family node) (finds : schema.effective value node = .ok (some found)) :
    found.DescribesBy family := by
  obtain ⟨after, run⟩ := (effective_iff node _).mpr rfl
  exact run.describesBy isFamily inside finds

/-! ## What holds of every node of a schema -/

theorem throughout_root (schema : Schema) {holds : Node → Prop}
    (everywhere : ∀ node ∈ schema.nodes, holds node) : schema.root.Throughout holds :=
  fun inner listed => everywhere inner (List.mem_append_left _ listed)

/-- What holds of every node of the schema and of the empty node holds throughout a family. -/
theorem isFamily_throughout (schema : Schema) {holds : Node → Prop} (empty : holds Node.any)
    (everywhere : ∀ node ∈ schema.nodes, holds node) :
    schema.IsFamily (Node.Throughout holds) where
  empty := Node.throughout_iff.mpr ⟨empty, fun _ below => nomatch below⟩
  child inside below := (Node.throughout_iff.mp inside).2 _ below
  definition := by
    intro reference target found
    unfold Schema.definition? at found
    split at found
    · cases found
      exact schema.throughout_root everywhere
    · intro inner listed
      exact everywhere inner (List.mem_append_right _
        (List.mem_flatMap.mpr ⟨_, mem_of_lookup found, listed⟩))

/-! ## The nodes of a schema without enumerations -/

/-- No node of the schema lists the values it admits. -/
def Unenumerated (schema : Schema) : Prop :=
  ∀ node ∈ schema.nodes, node.enumValues = none

end Schema

/-- Neither the node nor one below it lists the values it admits. -/
def Node.Unenumerated (node : Node) : Prop :=
  ∀ inner ∈ node.preorder, inner.enumValues = none

theorem Node.Unenumerated.self {node : Node} (unenumerated : node.Unenumerated) :
    node.enumValues = none :=
  (Node.throughout_iff.mp unenumerated).1

theorem Schema.Unenumerated.root {schema : Schema} (unenumerated : schema.Unenumerated) :
    schema.root.Unenumerated :=
  schema.throughout_root unenumerated

theorem Schema.Unenumerated.isFamily {schema : Schema} (unenumerated : schema.Unenumerated) :
    schema.IsFamily Node.Unenumerated :=
  schema.isFamily_throughout rfl unenumerated

end Pipewright
