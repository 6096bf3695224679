import Pipewright.Proofs.Canonical.Comparing
import Pipewright.Proofs.Canonical.Identification
import Pipewright.Proofs.Resolution.Acyclic
import Pipewright.Proofs.Walk.KeyOrder

/-!
# The order of keys

Documents that differ in the order of keys only have the same effective nodes, can be
walked alike and have the same normal form, so that no comparison tells them apart.
-/

namespace Pipewright

namespace Canonical

open Json

variable {table : RuleTable}

mutual

theorem normalize_reordered {document document' : Json} :
    Reordered document document' → document.KeysDistinct →
      normalize table document' = normalize table document
  | .null, _ => rfl
  | .boolean _, _ => rfl
  | .number _, _ => rfl
  | .string _, _ => rfl
  | .array items, distinct => by
      rw [normalize_array, normalize_array]
      exact congrArg Json.array
        (map_normalize_reordered items (keysDistinct_array.mp distinct))
  | @Reordered.object members between members' reordered permutation, distinct => by
      obtain ⟨nodup, values⟩ := keysDistinct_object.mp distinct
      have normals := map_normalMember_reordered reordered values
      have normalNodup : ((between.map (normalMember table)).map (·.1)).Nodup := by
        rw [map_fst_normalMember, reordered.keys_eq]
        exact nodup
      rw [normalize_object, normalize_object, ← normals,
        sortMembers_eq_of_perm (permutation.map _) normalNodup]

theorem map_normalize_reordered {items items' : List Json} :
    ReorderedItems items items' → (∀ item ∈ items, item.KeysDistinct) →
      items'.map (normalize table) = items.map (normalize table)
  | .nil, _ => rfl
  | .cons item items, distinct => by
      obtain ⟨first, rest⟩ := List.forall_mem_cons.mp distinct
      rw [List.map_cons, List.map_cons, normalize_reordered item first,
        map_normalize_reordered items rest]

theorem map_normalMember_reordered {members members' : Members} :
    ReorderedMembers members members' → (∀ member ∈ members, member.2.KeysDistinct) →
      members'.map (normalMember table) = members.map (normalMember table)
  | .nil, _ => rfl
  | .cons value members, distinct => by
      obtain ⟨first, rest⟩ := List.forall_mem_cons.mp distinct
      rw [List.map_cons, List.map_cons, normalMember, normalMember,
        normalize_reordered value first, map_normalMember_reordered members rest]

end

end Canonical

/-- The order of keys never matters: documents that differ in nothing else have the same
effective node at every place, or the same cycle; one can be walked exactly if the other
can; and comparing them either fails, as walking them does, or finds them equivalent. -/
theorem key_order_never_matters (schema : Schema) {document document' : Json}
    (reordered : document.Reordered document') (distinct : document.KeysDistinct) :
    (∀ node, schema.effective document node = schema.effective document' node) ∧
      (checkDocument document schema = .ok () ↔ checkDocument document' schema = .ok ()) ∧
      (∀ comparer : Comparer, comparer.schema = some schema →
        (checkDocument document schema = .ok () → ∃ comparison,
          comparer.compare document document' = .ok comparison ∧
            comparison.equivalent = true ∧
            comparison.leftDigest = comparison.rightDigest ∧
            comparison.difference = none) ∧
        (checkDocument document schema ≠ .ok () →
          ∃ cycle, comparer.compare document document' = .error cycle)) := by
  have sameWalk :
      checkDocument document' schema = .ok () ↔ checkDocument document schema = .ok () :=
    Walk.checkDocument_reordered reordered distinct
  refine ⟨?_, sameWalk.symm, ?_⟩
  · intro node
    exact (Schema.effective_eq_of_indifferent (reordered.indifferent distinct) node).symm
  · intro comparer ofSchema
    have checks : ∀ document, comparer.check document = checkDocument document schema := by
      intro document
      rw [Comparer.check, ofSchema]
    constructor
    · intro checked
      have compared := Comparer.compare_of_checked ((checks document).trans checked)
        ((checks document').trans (sameWalk.mpr checked))
      rw [Canonical.normalize_reordered reordered distinct] at compared
      exact ⟨_, compared, by simp [Comparer.weigh]⟩
    · intro unchecked
      cases failed : checkDocument document schema with
      | ok _ => exact absurd failed unchecked
      | error cycle =>
          exact ⟨cycle, Comparer.compare_of_left_error ((checks document).trans failed)⟩

/-- A tree with a tree below it. -/
def labelledTree : Json :=
  .object [("label", .string "root"),
    ("child", .object [("label", .string "leaf"), ("child", .null)])]

/-- The same tree, with the keys the other way round. -/
def turnedTree : Json :=
  .object [("child", .object [("child", .null), ("label", .string "leaf")]),
    ("label", .string "root")]

theorem labelledTree_reordered : labelledTree.Reordered turnedTree :=
  .object (.cons (.string "root")
    (.cons (.object (.cons (.string "leaf") (.cons .null .nil)) (List.Perm.swap _ _ _)) .nil))
    (List.Perm.swap _ _ _)

theorem labelledTree_distinct : labelledTree.KeysDistinct := by
  simp [labelledTree, Json.KeysDistinct, Json.MemberKeysDistinct]

theorem key_order_never_matters_on_trees :
    labelledTree.Reordered turnedTree ∧ labelledTree.KeysDistinct ∧
      ∃ comparison, (Comparer.ofSchema Schema.treeSchema).compare labelledTree turnedTree =
        .ok comparison ∧ comparison.equivalent = true ∧
          comparison.leftDigest = comparison.rightDigest ∧ comparison.difference = none := by
  obtain ⟨_, _, compares⟩ :=
    key_order_never_matters Schema.treeSchema labelledTree_reordered labelledTree_distinct
  obtain ⟨equivalent, _⟩ := compares (Comparer.ofSchema Schema.treeSchema) rfl
  exact ⟨labelledTree_reordered, labelledTree_distinct,
    equivalent (Schema.treeSchema_acyclic.checkDocument_ok labelledTree)⟩

end Pipewright
