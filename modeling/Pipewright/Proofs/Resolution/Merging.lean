import Mathlib.Data.List.ReduceOption
import Pipewright.Proofs.Resolution.Families
import Pipewright.Proofs.Resolution.Flattening
import Pipewright.Proofs.Schema.Names

/-!
# Merging nodes

Resolution merges nodes two at a time, grouped as the schema nests its composition keywords.
The grouping does not count: merging is associative, and composition keywords of the nodes that
are merged do not count either.  So the nodes in their order decide what they are merged to.

For this a node has to name each of its properties once.  All nodes of a loaded schema do, and
so does every node that resolution finds in it.
-/

namespace Pipewright

namespace Node

/-! ## Merging is associative -/

/-- Merging nodes is associative, where the middle one names each of its properties once, and
composition keywords of the two nodes that are merged do not count. -/
theorem merging_associates (lower middle upper : Node) :
    (middle.NamesDistinct →
      (lower.overlay middle).overlay upper = lower.overlay (middle.overlay upper)) ∧
      lower.overlay middle = lower.base.overlay middle ∧
      lower.overlay middle = lower.overlay middle.base := by
  refine ⟨fun distinct => ?_, ?_, ?_⟩
  · exact (overlay_overlay distinct lower upper).symm
  · exact (base_overlay lower middle).symm
  · exact (overlay_base lower middle).symm

/-- Three branches: a reference and a union, a name that is required twice, and names and
patterns that several branches have. -/
def branchesSource : Json :=
  .object [("allOf", .array
    [.object [("$ref", .string "#"),
        ("required", .array [.string "run", .string "run"]),
        ("properties", .object [("run", .object [("type", .string "string")]),
          ("name", .boolean true)]),
        ("patternProperties", .object [("^x-", .boolean true)])],
      .object [("oneOf", .array [.boolean true]),
        ("required", .array [.string "name", .string "run"]),
        ("properties", .object [("with", .boolean true),
          ("run", .object [("type", .string "array")])]),
        ("patternProperties", .object [("^x-", .boolean false)])],
      .object [("additionalProperties", .boolean false),
        ("required", .array [.string "with", .string "name"]),
        ("properties", .object [("name", .boolean false), ("uses", .boolean true)])]])]

theorem merging_associates_on_branches :
    ∃ schema lower middle upper, Schema.load branchesSource = .ok schema ∧
      schema.root.allOf = [lower, middle, upper] ∧ middle.NamesDistinct ∧
      (lower.overlay middle).overlay upper = lower.overlay (middle.overlay upper) ∧
      lower.overlay middle = lower.base.overlay middle ∧
      lower.overlay middle = lower.overlay middle.base ∧
      let merged := lower.overlay (middle.overlay upper)
      merged.properties.map (·.1) = ["run", "name", "with", "uses"] ∧
        merged.patterns.map (·.1.source) = ["^x-", "^x-"] ∧
        merged.required = ["run", "run", "name", "with"] := by
  have distinct : branchesSource.KeysDistinct := by
    simp [branchesSource, Json.KeysDistinct, Json.ItemKeysDistinct, Json.MemberKeysDistinct]
  have loaded : Schema.load branchesSource = .ok _ := rfl
  have everywhere := Schema.namesDistinct_of_load distinct loaded
  have below := (throughout_iff.mp (Schema.throughout_root _ everywhere)).2
  refine ⟨_, _, _, _, loaded, rfl, ?_⟩
  -- the middle branch is a node of the schema
  have throughout := below _ (mem_children_of_mem_allOf
    (List.mem_cons_of_mem _ List.mem_cons_self))
  have middleDistinct := (throughout_iff.mp throughout).1
  obtain ⟨associates, withoutLower, withoutMiddle⟩ := merging_associates _ _ _
  exact ⟨middleDistinct, associates middleDistinct, withoutLower, withoutMiddle, rfl, rfl, rfl⟩

/-! ## Groupings -/

/-- Nodes that are merged two at a time. -/
inductive Grouping where
  | single (node : Node)
  | merged (lower upper : Grouping)

namespace Grouping

/-- The nodes that are merged, the lowest first. -/
def layers : Grouping → List Node
  | single node => [node]
  | merged lower upper => lower.layers ++ upper.layers

/-- What the nodes are merged to. -/
def result : Grouping → Node
  | single node => node
  | merged lower upper => lower.result.overlay upper.result

variable {grouping : Grouping}

theorem layers_ne_nil (grouping : Grouping) : grouping.layers ≠ [] := by
  induction grouping with
  | single node => exact List.cons_ne_nil _ _
  | merged lower upper below _ => exact List.append_ne_nil_of_left_ne_nil below _

theorem namesDistinct_result (distinct : ∀ layer ∈ grouping.layers, layer.NamesDistinct) :
    grouping.result.NamesDistinct := by
  induction grouping with
  | single node => exact distinct node (List.mem_singleton_self node)
  | merged lower upper below _ =>
      exact namesDistinct_overlay (below (List.forall_mem_append.mp distinct).1) upper.result

/-- A grouping may be merged over a node all at once or layer by layer. -/
theorem overlay_result (bottom : Node)
    (distinct : ∀ layer ∈ grouping.layers, layer.NamesDistinct) :
    bottom.overlay grouping.result = bottom.overlayAll grouping.layers := by
  induction grouping generalizing bottom with
  | single node => rfl
  | merged lower upper below above =>
      obtain ⟨distinctBelow, distinctAbove⟩ := List.forall_mem_append.mp distinct
      calc bottom.overlay (lower.result.overlay upper.result)
          = (bottom.overlay lower.result).overlay upper.result :=
            overlay_overlay (namesDistinct_result distinctBelow) bottom upper.result
        _ = (bottom.overlayAll lower.layers).overlayAll upper.layers := by
            rw [below bottom distinctBelow, above _ distinctAbove]
        _ = bottom.overlayAll (lower.layers ++ upper.layers) :=
            (overlayAll_append bottom lower.layers upper.layers).symm

/-- Whatever the grouping, the nodes are merged to what merging them one after the other
gives. -/
theorem result_eq_overlayAll (distinct : ∀ layer ∈ grouping.layers, layer.NamesDistinct)
    {bottom : Node} {uppers : List Node} (layered : grouping.layers = bottom :: uppers) :
    grouping.result = bottom.overlayAll uppers := by
  induction grouping generalizing uppers with
  | single node =>
      cases layered
      rfl
  | merged lower upper below _ =>
      obtain ⟨distinctBelow, distinctAbove⟩ := List.forall_mem_append.mp distinct
      rw [layers] at layered
      cases lowest : lower.layers with
      | nil => exact absurd lowest lower.layers_ne_nil
      | cons first others =>
          rw [lowest, List.cons_append] at layered
          obtain ⟨rfl, rfl⟩ := List.cons.inj layered
          rw [result, below distinctBelow lowest, overlay_result _ distinctAbove,
            overlayAll_append]

end Grouping

end Node

/-! ## What resolution merges -/

namespace Schema

variable {schema : Schema} {value : Json} {stack : List String}

theorem composed_namesDistinct {node merged : Node} (distinct : node.NamesDistinct)
    (composes : schema.composed value stack node = .ok merged) : merged.NamesDistinct := by
  rcases composed_cases composes with rfl | ⟨result, merges, rfl⟩
  · exact distinct
  · exact (mergeBranches_keeps Node.NamesDistinct
      (fun below _ => Node.namesDistinct_overlay below _)
      (Node.namesDistinct_overlay distinct Node.any) merges :)

/-- What resolution finds in a schema names each of its properties once if all nodes of the
schema do. -/
theorem effectiveFrom_namesDistinct (everywhere : ∀ node ∈ schema.nodes, node.NamesDistinct)
    {node found : Node} (inside : node.Throughout Node.NamesDistinct)
    (succeeds : schema.effectiveFrom value stack node = .ok (some found)) :
    found.NamesDistinct := by
  obtain ⟨target, inner, merged, followed, composes, chooses⟩ := exists_composed succeeds
  have isFamily := schema.isFamily_throughout Node.namesDistinct_any everywhere
  have throughout : target.Throughout Node.NamesDistinct :=
    follow_keeps _ isFamily.definition inside followed
  have distinct : merged.NamesDistinct :=
    composed_namesDistinct (Node.throughout_iff.mp throughout).1 composes
  rcases (chosen_cases chooses).2 with ⟨_, rfl⟩ | ⟨branch, rfl⟩
  · exact distinct
  · exact Node.namesDistinct_overlay (Node.namesDistinct_overlay distinct Node.any) branch

/-- What resolution comes to for each of some branches, where it fails for none. -/
def Finds (schema : Schema) (value : Json) (stack : List String) (branches : List Node)
    (found : List (Option Node)) : Prop :=
  List.Forall₂ (fun branch outcome => schema.effectiveFrom value stack branch = .ok outcome)
    branches found

/-- Merging branches lays what is found for each of them over the node, one after the other. -/
theorem mergeBranches_eq_ok_iff {merged result : Node} {branches : List Node} :
    schema.mergeBranches value stack merged branches = .ok result ↔
      ∃ found, schema.Finds value stack branches found ∧
        result = merged.overlayAll found.reduceOption := by
  induction branches generalizing merged with
  | nil =>
      rw [mergeBranches]
      constructor
      · intro merges
        cases merges
        exact ⟨[], .nil, rfl⟩
      · rintro ⟨found, finds, rfl⟩
        cases finds
        rfl
  | cons branch rest inner =>
      rw [mergeBranches_cons]
      constructor
      · intro merges
        cases first : schema.effectiveFrom value stack branch with
        | error cycle =>
            rw [first] at merges
            cases merges
        | ok outcome =>
            rw [first] at merges
            obtain ⟨found, finds, rfl⟩ := inner.mp merges
            refine ⟨outcome :: found, .cons first finds, ?_⟩
            cases outcome <;> rfl
      · rintro ⟨found, finds, rfl⟩
        obtain ⟨outcome, more, first, others, rfl⟩ := List.forall₂_cons_left_iff.mp finds
        rw [first]
        refine inner.mpr ⟨more, others, ?_⟩
        cases outcome <;> rfl

/-- Every node that was found was found for one of the branches. -/
theorem exists_branch_of_mem {branches : List Node} {found : List (Option Node)}
    (finds : schema.Finds value stack branches found) {upper : Node} (listed : some upper ∈ found) :
    ∃ branch ∈ branches, schema.effectiveFrom value stack branch = .ok (some upper) := by
  induction finds with
  | nil => cases listed
  | @cons branch outcome rest more first _ inner =>
      rcases List.mem_cons.mp listed with rfl | later
      · exact ⟨branch, List.mem_cons_self, first⟩
      · obtain ⟨other, among, succeeds⟩ := inner later
        exact ⟨other, List.mem_cons_of_mem _ among, succeeds⟩

/-- What is found for branches from a schema may be merged over a node in any grouping. -/
theorem merged_in_any_grouping (everywhere : ∀ node ∈ schema.nodes, node.NamesDistinct)
    {merged result : Node} {branches : List Node} (distinct : merged.NamesDistinct)
    (inside : ∀ branch ∈ branches, branch.Throughout Node.NamesDistinct)
    (merges : schema.mergeBranches value stack merged branches = .ok result) :
    ∃ found, schema.Finds value stack branches found ∧
      ∀ grouping : Node.Grouping, grouping.layers = merged :: found.reduceOption →
        grouping.result = result := by
  obtain ⟨found, finds, rfl⟩ := mergeBranches_eq_ok_iff.mp merges
  refine ⟨found, finds, fun grouping layered => ?_⟩
  have distinctLayers : ∀ layer ∈ grouping.layers, layer.NamesDistinct := by
    rw [layered]
    refine List.forall_mem_cons.mpr ⟨distinct, fun upper among => ?_⟩
    obtain ⟨branch, listed, succeeds⟩ :=
      exists_branch_of_mem finds (List.reduceOption_mem_iff.mp among)
    exact effectiveFrom_namesDistinct everywhere (inside branch listed) succeeds
  exact Node.Grouping.result_eq_overlayAll distinctLayers layered

end Schema

end Pipewright
