import Pipewright.Proofs.Resolution.Indifference
import Pipewright.Proofs.Walk.Events

/-!
# Walks and the order of keys

A walk comes to the members of an object in the order of their keys and ends at the first
place whose node cannot be resolved.  Which place that is depends on the order; whether
there is one does not.
-/

namespace Pipewright

namespace Walk

open Json

variable {schema : Schema}

/-- The place can be resolved, and so can every place below it. -/
def Passable (schema : Schema) (found : Resolved Context) (value : Json) : Prop :=
  ∃ place, found = .ok place ∧ (branches schema place value).check = .ok ()

theorem checkDocument_eq_ok_iff {document : Json} :
    checkDocument document schema = .ok () ↔
      Passable schema (context schema [] (some schema.root) document none none) document := by
  rw [checkDocument_eq, documentOutline, Passable]
  cases context schema [] (some schema.root) document none none with
  | error cycle => simp [Except.map]
  | ok place => simp [Except.map, outline, Outline.check]

theorem memberBranches_check_iff {container : Context} {node : Node} (members : Members) :
    (memberBranches schema container node members).check = .ok () ↔
      ∀ member ∈ members,
        Passable schema (memberContext schema container node member.1 member.2) member.2 := by
  induction members with
  | nil => simp [memberBranches, Branches.check]
  | cons member rest inner =>
      obtain ⟨key, value⟩ := member
      rw [List.forall_mem_cons, ← inner, memberBranches, Passable]
      cases memberContext schema container node key value with
      | error cycle => simp [Branches.check]
      | ok place =>
          simp only [Branches.check, Outline.check, Except.ok.injEq, exists_eq_left']
          cases (branches schema place value).check <;> simp

theorem itemBranches_check_cons {container : Context} {node : Node} (position : Nat)
    (value : Json) (rest : List Json) :
    (itemBranches schema container node position (value :: rest)).check = .ok () ↔
      Passable schema (itemContext schema container node position value) value ∧
        (itemBranches schema container node (position + 1) rest).check = .ok () := by
  rw [itemBranches, Passable]
  cases itemContext schema container node position value with
  | error cycle => simp [Branches.check]
  | ok place =>
      simp only [Branches.check, Outline.check, Except.ok.injEq, exists_eq_left']
      cases (branches schema place value).check <;> simp

theorem Passable.congr {found found' : Resolved Context} {value value' : Json}
    (sameNode : found'.map (·.node) = found.map (·.node))
    (sameBelow : ∀ place place', place'.node = place.node →
      ((branches schema place' value').check = .ok () ↔
        (branches schema place value).check = .ok ())) :
    Passable schema found' value' ↔ Passable schema found value := by
  cases found with
  | error cycle =>
      cases found' with
      | error cycle' => simp [Passable]
      | ok place' => cases sameNode
  | ok place =>
      cases found' with
      | error cycle' => cases sameNode
      | ok place' =>
          have same : place'.node = place.node := by simpa [Except.map] using sameNode
          simpa [Passable] using sameBelow place place' same

/-- Values that no node tells apart can be passed at the same places. -/
theorem passable_congr {value value' : Json} {path path' : List Step} {declared : Option Node}
    {parent parent' : Option Json} {key key' : Option Step}
    (indifferent : Indifferent value value')
    (sameBelow : ∀ place place' : Context, place'.node = place.node →
      ((branches schema place' value').check = .ok () ↔
        (branches schema place value).check = .ok ())) :
    Passable schema (context schema path' declared value' parent' key') value' ↔
      Passable schema (context schema path declared value parent key) value := by
  have sameNode : (context schema path' declared value' parent' key').map (·.node) =
      (context schema path declared value parent key).map (·.node) := by
    rw [map_node_context, map_node_context]
    cases declared with
    | none => rfl
    | some node => exact Schema.effective_eq_of_indifferent indifferent node
  exact Passable.congr sameNode sameBelow

mutual

theorem check_reordered {value value' : Json} :
    Reordered value value' → value.KeysDistinct →
      ∀ place place' : Context, place'.node = place.node →
        ((branches schema place' value').check = .ok () ↔
          (branches schema place value).check = .ok ())
  | .null, _, _, _, _ => Iff.rfl
  | .boolean _, _, _, _, _ => Iff.rfl
  | .number _, _, _, _, _ => Iff.rfl
  | .string _, _, _, _, _ => Iff.rfl
  | .array items, distinct, place, place', sameNode => by
      simp only [branches, sameNode]
      cases place.node with
      | none => exact Iff.rfl
      | some node =>
          exact checkItems_reordered items (keysDistinct_array.mp distinct) place place' node 0
  | .object members permutation, distinct, place, place', sameNode => by
      simp only [branches, sameNode]
      cases place.node with
      | none => exact Iff.rfl
      | some node =>
          simp only [memberBranches_check_iff, ← permutation.mem_iff]
          exact checkMembers_reordered members (keysDistinct_object.mp distinct).2 place place' node

theorem checkItems_reordered {items items' : List Json} :
    ReorderedItems items items' → (∀ item ∈ items, item.KeysDistinct) →
      ∀ (container container' : Context) (node : Node) (position : Nat),
        ((itemBranches schema container' node position items').check = .ok () ↔
          (itemBranches schema container node position items).check = .ok ())
  | .nil, _, _, _, _, _ => Iff.rfl
  | .cons item items, distinct, container, container', node, position => by
      obtain ⟨first, rest⟩ := List.forall_mem_cons.mp distinct
      rw [itemBranches_check_cons, itemBranches_check_cons,
        checkItems_reordered items rest container container' node (position + 1)]
      exact and_congr_left' (passable_congr (item.indifferent first) (check_reordered item first))

theorem checkMembers_reordered {members members' : Members} :
    ReorderedMembers members members' → (∀ member ∈ members, member.2.KeysDistinct) →
      ∀ (container container' : Context) (node : Node),
        ((∀ member ∈ members',
            Passable schema (memberContext schema container' node member.1 member.2) member.2) ↔
          ∀ member ∈ members,
            Passable schema (memberContext schema container node member.1 member.2) member.2)
  | .nil, _, _, _, _ => by simp
  | .cons value members, distinct, container, container', node => by
      obtain ⟨first, rest⟩ := List.forall_mem_cons.mp distinct
      rw [List.forall_mem_cons, List.forall_mem_cons,
        checkMembers_reordered members rest container container' node]
      exact and_congr_left'
        (passable_congr (value.indifferent first) (check_reordered value first))

end

/-- A document can be walked in whatever order its keys come. -/
theorem checkDocument_reordered {document document' : Json}
    (reordered : Reordered document document') (distinct : document.KeysDistinct) :
    checkDocument document' schema = .ok () ↔ checkDocument document schema = .ok () := by
  rw [checkDocument_eq_ok_iff, checkDocument_eq_ok_iff]
  exact passable_congr (reordered.indifferent distinct) (check_reordered reordered distinct)

end Walk

end Pipewright
