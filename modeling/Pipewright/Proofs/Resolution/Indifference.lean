import Pipewright.Proofs.Json.Reordering
import Pipewright.Proofs.Json.Replacing
import Pipewright.Proofs.Resolution.Families

/-!
# Values that resolve alike

Resolution looks at a value only through the checks that a node makes on its own.  Where
no node of a family tells two values apart by these checks, both have the same runs from the
nodes of the family, and so the same effective nodes and the same cycles.  The order of keys
is nothing that a node looks at, and what stands under a key only a node that lists the
values it admits.
-/

namespace Pipewright

/-- No node tells the values apart by its own checks. -/
structure Indifferent (value value' : Json) : Prop where
  acceptsType : ∀ node : Node, node.acceptsType value' = node.acceptsType value
  admitsAlone : ∀ node : Node, node.admitsAlone value' = node.admitsAlone value

/-- No node of the family tells the values apart by its own checks, and none at all by its
types, which are merged. -/
structure IndifferentIn (family : Node → Prop) (value value' : Json) : Prop where
  acceptsType : ∀ node : Node, node.acceptsType value' = node.acceptsType value
  admitsAlone : ∀ node : Node, family node →
    node.admitsAlone value' = node.admitsAlone value

namespace Schema

variable {schema : Schema} {family : Node → Prop} {value value' : Json}

theorem keepIfAccepted_eq (indifferent : IndifferentIn family value value') (node : Node) :
    keepIfAccepted value' node = keepIfAccepted value node := by
  rw [keepIfAccepted, keepIfAccepted, indifferent.acceptsType]

mutual

theorem Selects.transport (isFamily : schema.IsFamily family)
    (indifferent : IndifferentIn family value value') {stack after : List String}
    {position : Nat} {alternatives : List Node} {outcome : Resolved (Option (Nat × Node))} :
    schema.Selects value stack position alternatives outcome after →
      (∀ alternative ∈ alternatives, family alternative) →
      schema.Selects value' stack position alternatives outcome after
  | .exhausted, _ => .exhausted
  | .unfollowed follows, _ => .unfollowed follows
  | .dangling follows selects, inside =>
      .dangling follows (selects.transport isFamily indifferent (List.forall_mem_cons.mp inside).2)
  | .failed follows admits, inside =>
      have target := follows.inFamily isFamily (List.forall_mem_cons.mp inside).1
      .failed follows (admits.transport isFamily indifferent target)
  | .refused follows admits selects, inside =>
      have target := follows.inFamily isFamily (List.forall_mem_cons.mp inside).1
      .refused follows (admits.transport isFamily indifferent target)
        (selects.transport isFamily indifferent (List.forall_mem_cons.mp inside).2)
  | .admitted follows admits, inside =>
      have target := follows.inFamily isFamily (List.forall_mem_cons.mp inside).1
      .admitted follows (admits.transport isFamily indifferent target)

theorem Admits.transport (isFamily : schema.IsFamily family)
    (indifferent : IndifferentIn family value value') {stack after : List String}
    {node : Node} {outcome : Resolved Bool} :
    schema.Admits value stack node outcome after → family node →
      schema.Admits value' stack node outcome after
  | .refused refused, inside => .refused ((indifferent.admitsAlone node inside).trans refused)
  | .single alone single, inside =>
      .single ((indifferent.admitsAlone node inside).trans alone) single
  | .union alone union selects, inside =>
      .union ((indifferent.admitsAlone node inside).trans alone) union
        (selects.transport isFamily indifferent (isFamily.alternative inside))

end

mutual

theorem Effective.transport (isFamily : schema.IsFamily family)
    (indifferent : IndifferentIn family value value')
    {stack after : List String} {node : Node} {outcome : Resolved (Option Node)} :
    schema.Effective value stack node outcome after → family node →
      schema.Effective value' stack node outcome after
  | .cut step, inside => .cut (step.transport isFamily indifferent inside)

theorem EffectiveStep.transport (isFamily : schema.IsFamily family)
    (indifferent : IndifferentIn family value value')
    {stack after : List String} {node : Node} {outcome : Resolved (Option Node)} :
    schema.EffectiveStep value stack node outcome after → family node →
      schema.EffectiveStep value' stack node outcome after
  | .unfollowed follows, _ => .unfollowed follows
  | .dangling follows, _ => .dangling follows
  | .unmerged follows merges, inside =>
      have target := follows.inFamily isFamily inside
      .unmerged follows (merges.transport isFamily indifferent target)
  | .merged follows merges chooses, inside =>
      have target := follows.inFamily isFamily inside
      -- the merged node need not be in the family, but it has the alternatives of the target
      .merged follows (merges.transport isFamily indifferent target)
        (chooses.transport isFamily indifferent
          (merges.alternatives_eq ▸ isFamily.alternative target))

theorem Merges.transport (isFamily : schema.IsFamily family)
    (indifferent : IndifferentIn family value value') {stack after : List String}
    {node : Node} {outcome : Resolved Node} :
    schema.Merges value stack node outcome after → family node →
      schema.Merges value' stack node outcome after
  | .plain plain, _ => .plain plain
  | .failed branches merges, inside =>
      .failed branches (merges.transport isFamily indifferent (isFamily.branch inside))
  | .merged branches merges, inside =>
      .merged branches (merges.transport isFamily indifferent (isFamily.branch inside))

theorem MergesOver.transport (isFamily : schema.IsFamily family)
    (indifferent : IndifferentIn family value value')
    {stack after : List String} {merged : Node} {branches : List Node}
    {outcome : Resolved Node} :
    schema.MergesOver value stack merged branches outcome after →
      (∀ branch ∈ branches, family branch) →
      schema.MergesOver value' stack merged branches outcome after
  | .done, _ => .done
  | .failed effective, inside =>
      .failed (effective.transport isFamily indifferent (List.forall_mem_cons.mp inside).1)
  | .skipped effective merges, inside =>
      .skipped (effective.transport isFamily indifferent (List.forall_mem_cons.mp inside).1)
        (merges.transport isFamily indifferent (List.forall_mem_cons.mp inside).2)
  | .overlaid effective merges, inside =>
      .overlaid (effective.transport isFamily indifferent (List.forall_mem_cons.mp inside).1)
        (merges.transport isFamily indifferent (List.forall_mem_cons.mp inside).2)

theorem Chooses.transport (isFamily : schema.IsFamily family)
    (indifferent : IndifferentIn family value value') {stack after : List String}
    {node : Node} {outcome : Resolved (Option Node)} :
    schema.Chooses value stack node outcome after →
      (∀ alternative ∈ node.alternatives, family alternative) →
      schema.Chooses value' stack node outcome after
  | .single single, _ => keepIfAccepted_eq indifferent node ▸ .single single
  | .unselected union selects, inside =>
      .unselected union (selects.transport isFamily indifferent inside)
  | .unmatched union selects, inside =>
      .unmatched union (selects.transport isFamily indifferent inside)
  | .failed union selects atPosition effective, inside =>
      have entered := inside _ (List.mem_of_getElem? atPosition)
      .failed union (selects.transport isFamily indifferent inside) atPosition
        (effective.transport isFamily indifferent entered)
  | .inapplicable union selects atPosition effective, inside =>
      have entered := inside _ (List.mem_of_getElem? atPosition)
      .inapplicable union (selects.transport isFamily indifferent inside) atPosition
        (effective.transport isFamily indifferent entered)
  | @Chooses.chosen _ _ _ _ _ _ _ _ branch _ union selects atPosition effective, inside =>
      have entered := inside _ (List.mem_of_getElem? atPosition)
      keepIfAccepted_eq indifferent (node.base.overlay branch) ▸
        .chosen union (selects.transport isFamily indifferent inside) atPosition
          (effective.transport isFamily indifferent entered)

end

/-- Values that no node of a family tells apart have the same effective node below a node of
the family, or the same cycle. -/
theorem effective_eq_in_family (isFamily : schema.IsFamily family)
    (indifferent : IndifferentIn family value value') {node : Node} (inside : family node) :
    schema.effective value' node = schema.effective value node := by
  obtain ⟨after, run⟩ := (effective_iff node (schema.effective value node)).mpr rfl
  exact ((effective_iff node _).mp ⟨after, run.transport isFamily indifferent inside⟩).symm

/-- Values that no node tells apart have the same effective node, or the same cycle. -/
theorem effective_eq_of_indifferent (indifferent : Indifferent value value') (node : Node) :
    schema.effective value' node = schema.effective value node := by
  have everyNode : schema.IsFamily fun _ => True :=
    ⟨trivial, fun _ _ => trivial, fun _ => trivial⟩
  have indifferentInAll : IndifferentIn (fun _ => True) value value' :=
    ⟨indifferent.acceptsType, fun node _ => indifferent.admitsAlone node⟩
  exact effective_eq_in_family everyNode indifferentInAll trivial

end Schema

/-! ## Keys -/

namespace Json

theorem lookup_isSome_eq (members : Members) (name : String) :
    (members.lookup name).isSome = (members.map (·.1)).any (name == ·) := by
  rw [Bool.eq_iff_iff, List.lookup_isSome_iff, List.any_map, List.any_eq_true]
  rfl

/-- The checks on an object look up required names and ask for one key that is named. -/
theorem keyChecks_eq {members members' : Members}
    (sameKeys : (members'.map (·.1)).Perm (members.map (·.1))) (node : Node) :
    (node.required.all (fun name => (members'.lookup name).isSome) &&
        (node.properties.isEmpty || members'.isEmpty ||
          members'.any fun member => (node.properties.lookup member.1).isSome)) =
      (node.required.all (fun name => (members.lookup name).isSome) &&
        (node.properties.isEmpty || members.isEmpty ||
          members.any fun member => (node.properties.lookup member.1).isSome)) := by
  have sameLookup : ∀ name, (members'.lookup name).isSome = (members.lookup name).isSome := by
    intro name
    rw [lookup_isSome_eq, lookup_isSome_eq, sameKeys.any_eq]
  have sameEmpty : members'.isEmpty = members.isEmpty := by
    rw [← List.isEmpty_map, sameKeys.isEmpty_eq, List.isEmpty_map]
  have sameAny : (members'.any fun member => (node.properties.lookup member.1).isSome) =
      members.any fun member => (node.properties.lookup member.1).isSome := by
    have mapped := sameKeys.any_eq (f := fun key => (node.properties.lookup key).isSome)
    rwa [List.any_map, List.any_map] at mapped
  simp only [sameLookup, sameEmpty, sameAny]

namespace Reordered

variable {value value' : Json}

theorem admits_eq (reordered : Reordered value value') (tag : PrimitiveType) :
    tag.admits value' = tag.admits value := by
  cases reordered <;> cases tag <;> rfl

theorem acceptsType_eq (reordered : Reordered value value') (node : Node) :
    node.acceptsType value' = node.acceptsType value := by
  unfold Node.acceptsType
  simp only [reordered.admits_eq]

theorem admitsAlone_eq (reordered : Reordered value value') (distinct : value.KeysDistinct)
    (node : Node) : node.admitsAlone value' = node.admitsAlone value := by
  have sameType := reordered.acceptsType_eq node
  have sameAllowed := reordered.same_eq distinct
  unfold Node.admitsAlone
  rw [sameType]
  simp only [sameAllowed]
  cases reordered with
  | @object members between members' reordered permutation =>
      have sameKeys : (members'.map (·.1)).Perm (members.map (·.1)) :=
        reordered.keys_eq ▸ (permutation.map (·.1)).symm
      simp only [keyChecks_eq sameKeys]
  | _ => rfl

theorem indifferent (reordered : Reordered value value') (distinct : value.KeysDistinct) :
    Indifferent value value' :=
  ⟨reordered.acceptsType_eq, reordered.admitsAlone_eq distinct⟩

end Reordered

namespace SameKeys

variable {value value' : Json}

theorem admits_eq (sameKeys : SameKeys value value') (tag : PrimitiveType) :
    tag.admits value' = tag.admits value := by
  cases sameKeys <;> cases tag <;> rfl

theorem acceptsType_eq (sameKeys : SameKeys value value') (node : Node) :
    node.acceptsType value' = node.acceptsType value := by
  unfold Node.acceptsType
  simp only [sameKeys.admits_eq]

/-- A node that lists no values looks at the type and the keys alone. -/
theorem admitsAlone_eq (sameKeys : SameKeys value value') {node : Node}
    (unenumerated : node.enumValues = none) :
    node.admitsAlone value' = node.admitsAlone value := by
  unfold Node.admitsAlone
  rw [sameKeys.acceptsType_eq, unenumerated]
  cases sameKeys with
  | array => rfl
  | object listed => simp only [keyChecks_eq (.of_eq listed)]

theorem indifferentIn (sameKeys : SameKeys value value') :
    IndifferentIn Node.Unenumerated value value' :=
  ⟨sameKeys.acceptsType_eq, fun _ unenumerated => sameKeys.admitsAlone_eq unenumerated.self⟩

end SameKeys

end Json

end Pipewright
