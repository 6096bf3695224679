import Pipewright.Proofs.Resolution.Acyclic

/-!
# References and their targets

A reference stands for the node that it names.  Unfolding replaces references of a node, at
the places that composition leads to, by what they name.  A run of the node that succeeds is
followed, step by step, by a run of the unfolded node, on a stack with no more references:
the stack decides on failures and on nothing else.
-/

namespace Pipewright

namespace Schema

mutual

/-- Replacing some references of a node by the nodes that they name.  What replaces a
reference may be unfolded in turn. -/
inductive Unfolds (schema : Schema) : Node → Node → Prop where
  | kept (node : Node) : Unfolds schema node node
  | replaced {node target unfolded : Node} {reference : String} :
      node.reference = some reference → schema.definition? reference = some target →
      Unfolds schema target unfolded → Unfolds schema node unfolded
  | composed {node : Node} {oneOf anyOf allOf : List Node} :
      UnfoldsAll schema node.oneOf oneOf → UnfoldsAll schema node.anyOf anyOf →
      UnfoldsAll schema node.allOf allOf →
      Unfolds schema node { node with oneOf := oneOf, anyOf := anyOf, allOf := allOf }

/-- Unfolding the members of a list. -/
inductive UnfoldsAll (schema : Schema) : List Node → List Node → Prop where
  | nil : UnfoldsAll schema [] []
  | cons {node unfolded : Node} {rest unfoldedRest : List Node} :
      Unfolds schema node unfolded → UnfoldsAll schema rest unfoldedRest →
      UnfoldsAll schema (node :: rest) (unfolded :: unfoldedRest)

end

/-- The second node is the first one but for its parts, which are unfolded. -/
structure Recomposes (schema : Schema) (node unfolded : Node) : Prop where
  oneOf : schema.UnfoldsAll node.oneOf unfolded.oneOf
  anyOf : schema.UnfoldsAll node.anyOf unfolded.anyOf
  allOf : schema.UnfoldsAll node.allOf unfolded.allOf
  elsewhere : unfolded =
    { node with oneOf := unfolded.oneOf, anyOf := unfolded.anyOf, allOf := unfolded.allOf }

variable {schema : Schema} {value : Json}

/-! ## The parts of an unfolded node -/

namespace UnfoldsAll

variable {nodes unfolded : List Node}

theorem refl (nodes : List Node) : schema.UnfoldsAll nodes nodes := by
  induction nodes with
  | nil => exact .nil
  | cons node rest inner => exact .cons (.kept node) inner

theorem isEmpty_eq (unfolds : schema.UnfoldsAll nodes unfolded) :
    unfolded.isEmpty = nodes.isEmpty := by
  cases unfolds <;> rfl

theorem eq_nil (unfolds : schema.UnfoldsAll nodes unfolded) (empty : nodes = []) :
    unfolded = [] := by
  subst empty
  cases unfolds
  rfl

theorem getElem? (unfolds : schema.UnfoldsAll nodes unfolded) {position : Nat} {node : Node}
    (atPosition : nodes[position]? = some node) :
    ∃ target, unfolded[position]? = some target ∧ schema.Unfolds node target := by
  induction position generalizing nodes unfolded with
  | zero =>
      cases unfolds with
      | nil => cases atPosition
      | cons first _ =>
          cases atPosition
          exact ⟨_, rfl, first⟩
  | succ position inner =>
      cases unfolds with
      | nil => cases atPosition
      | cons _ later => exact inner later atPosition

theorem isUnion_eq {node other : Node} (oneOf : schema.UnfoldsAll node.oneOf other.oneOf)
    (anyOf : schema.UnfoldsAll node.anyOf other.anyOf) : other.isUnion = node.isUnion := by
  rw [Node.isUnion, Node.isUnion, oneOf.isEmpty_eq, anyOf.isEmpty_eq]

theorem alternatives {node other : Node} (oneOf : schema.UnfoldsAll node.oneOf other.oneOf)
    (anyOf : schema.UnfoldsAll node.anyOf other.anyOf) :
    schema.UnfoldsAll node.alternatives other.alternatives := by
  rw [Node.alternatives, Node.alternatives, oneOf.isEmpty_eq]
  split
  · exact anyOf
  · exact oneOf

end UnfoldsAll

/-- A node that is no reference is unfolded in its parts only. -/
theorem Unfolds.recomposes {node unfolded : Node} (unfolds : schema.Unfolds node unfolded)
    (noReference : node.reference = none) : schema.Recomposes node unfolded := by
  cases unfolds with
  | kept =>
      cases node
      exact ⟨.refl _, .refl _, .refl _, rfl⟩
  | replaced isReference =>
      rw [noReference] at isReference
      cases isReference
  | composed oneOf anyOf allOf => exact ⟨oneOf, anyOf, allOf, rfl⟩

namespace Recomposes

variable {node unfolded : Node}

theorem base_eq (recomposes : schema.Recomposes node unfolded) : unfolded.base = node.base := by
  rw [recomposes.elsewhere]
  rfl

theorem admitsAlone_eq (recomposes : schema.Recomposes node unfolded) (value : Json) :
    unfolded.admitsAlone value = node.admitsAlone value := by
  rw [recomposes.elsewhere]
  rfl

end Recomposes

/-! ## Runs of unfolded nodes -/

/-- Following references comes to the unfolded target, and enters no other references. -/
theorem Follows.unfold {stack stack' after : List String} {node unfolded : Node}
    {found : Option Node} (run : schema.Follows stack node (.ok found) after)
    (unfolds : schema.Unfolds node unfolded) (fewer : stack' ⊆ stack) :
    ∃ found' after', schema.Follows stack' unfolded (.ok found') after' ∧ after' ⊆ after ∧
      found.Rel schema.Recomposes found' := by
  generalize same : (Except.ok found : Resolved (Option Node)) = outcome at run
  induction run generalizing stack' unfolded with
  | arrived noReference =>
      cases same
      have recomposes := unfolds.recomposes noReference
      have noReference' : unfolded.reference = none := by
        rw [recomposes.elsewhere]
        exact noReference
      exact ⟨_, _, .arrived noReference', fewer, .some recomposes⟩
  | repeated => cases same
  | dangling isReference fresh missing =>
      cases same
      have fresh' := fun present => fresh (fewer present)
      cases unfolds with
      | kept => exact ⟨_, _, .dangling isReference fresh' missing, fewer, .none⟩
      | replaced isReference' found =>
          cases isReference.symm.trans isReference'
          cases missing.symm.trans found
      | composed => exact ⟨_, _, .dangling isReference fresh' missing, fewer, .none⟩
  | @entered stack after node target reference _ isReference fresh named _ inner =>
      have below : stack ⊆ stack ++ [reference] := List.subset_append_left stack [reference]
      have enters : ∀ {other : Node}, other.reference = some reference →
          ∃ found' after', schema.Follows stack' other (.ok found') after' ∧ after' ⊆ after ∧
            found.Rel schema.Recomposes found' := by
        intro other isReference'
        have fewer' : stack' ++ [reference] ⊆ stack ++ [reference] :=
          List.append_subset_of_subset_of_subset (List.Subset.trans fewer below)
            (List.subset_append_right stack [reference])
        obtain ⟨found', after', follows, within, related⟩ := inner (.kept target) fewer' same
        exact ⟨found', after',
          .entered isReference' (fun present => fresh (fewer present)) named follows, within,
          related⟩
      cases unfolds with
      | kept => exact enters isReference
      | replaced isReference' named' unfolds =>
          cases isReference.symm.trans isReference'
          cases named.symm.trans named'
          exact inner unfolds (List.Subset.trans fewer below) same
      | composed => exact enters isReference

mutual

/-- Selecting among unfolded alternatives comes to the same position. -/
theorem Selects.unfold {stack stack' after : List String} {position : Nat}
    {alternatives unfolded : List Node} {outcome : Resolved (Option (Nat × Node))}
    {found : Option (Nat × Node)} :
    schema.Selects value stack position alternatives outcome after →
      schema.UnfoldsAll alternatives unfolded → stack' ⊆ stack → outcome = .ok found →
      ∃ found', schema.Selects value stack' position unfolded (.ok found') stack' ∧
        found'.map (·.1) = found.map (·.1)
  | .exhausted, .nil, _, rfl => ⟨none, .exhausted, rfl⟩
  | .dangling follows selects, .cons unfolds later, fewer, succeeded => by
      obtain ⟨_, after', follows', _, ⟨⟩⟩ := follows.unfold unfolds fewer
      rw [← follows.take_eq] at fewer
      obtain ⟨found', selects', same⟩ := selects.unfold later fewer succeeded
      rw [← follows'.take_eq] at selects'
      have run := Selects.dangling follows' selects'
      rw [follows'.take_eq] at run
      exact ⟨found', run, same⟩
  | .refused follows admits selects, .cons unfolds later, fewer, succeeded => by
      obtain ⟨_, inner', follows', within, ⟨recomposes⟩⟩ := follows.unfold unfolds fewer
      have admits' := admits.unfold recomposes within rfl
      rw [← follows.take_eq, ← admits.stack_eq] at fewer
      obtain ⟨found', selects', same⟩ := selects.unfold later fewer succeeded
      rw [← follows'.take_eq] at selects'
      have run := Selects.refused follows' admits' selects'
      rw [follows'.take_eq] at run
      exact ⟨found', run, same⟩
  | @Selects.admitted _ _ _ _ _ position _ _ _ follows admits,
      @UnfoldsAll.cons _ _ target _ unfoldedRest unfolds _, fewer, rfl => by
      obtain ⟨_, inner', follows', within, ⟨recomposes⟩⟩ := follows.unfold unfolds fewer
      have admits' := admits.unfold recomposes within rfl
      have run : schema.Selects value stack' position (target :: unfoldedRest) _ _ :=
        .admitted follows' admits'
      rw [follows'.take_eq] at run
      exact ⟨_, run, rfl⟩

theorem Admits.unfold {stack stack' after : List String} {node unfolded : Node}
    {outcome : Resolved Bool} {verdict : Bool} :
    schema.Admits value stack node outcome after → schema.Recomposes node unfolded →
      stack' ⊆ stack → outcome = .ok verdict →
      schema.Admits value stack' unfolded outcome stack'
  | .refused refused, recomposes, _, _ => .refused ((recomposes.admitsAlone_eq value).trans refused)
  | .single alone single, recomposes, _, _ =>
      .single ((recomposes.admitsAlone_eq value).trans alone)
        ((recomposes.oneOf.isUnion_eq recomposes.anyOf).trans single)
  | @Admits.union _ _ _ _ _ outcome alone union selects, recomposes, fewer, succeeded => by
      have isOk : ∃ found, outcome = .ok found := by
        cases outcome with
        | error cycle => cases succeeded
        | ok found => exact ⟨found, rfl⟩
      obtain ⟨found, isOk⟩ := isOk
      obtain ⟨found', selects', same⟩ :=
        selects.unfold (recomposes.oneOf.alternatives recomposes.anyOf) fewer isOk
      have verdicts : found'.isSome = found.isSome := by
        rw [← Option.isSome_map (f := (·.1)), same, Option.isSome_map]
      have admits' := Admits.union ((recomposes.admitsAlone_eq value).trans alone)
        ((recomposes.oneOf.isUnion_eq recomposes.anyOf).trans union) selects'
      rw [Except.map, verdicts] at admits'
      rw [isOk]
      exact admits'

end

/-- Merging branches keeps the union of the node. -/
theorem Merges.union_eq {stack after : List String} {node merged : Node} :
    schema.Merges value stack node (.ok merged) after →
      merged.oneOf = node.oneOf ∧ merged.anyOf = node.anyOf
  | .plain _ => ⟨rfl, rfl⟩
  | .merged _ _ => ⟨rfl, rfl⟩

mutual

/-- What is found for a node is found for it unfolded, with no more references on the
stack. -/
theorem Effective.unfold {stack stack' after : List String} {node unfolded : Node}
    {outcome : Resolved (Option Node)} {found : Option Node} :
    schema.Effective value stack node outcome after → schema.Unfolds node unfolded →
      stack' ⊆ stack → outcome = .ok found →
      schema.Effective value stack' unfolded outcome stack'
  | .cut step, unfolds, fewer, succeeded => by
      obtain ⟨after', step'⟩ := step.unfold unfolds fewer succeeded
      have run := Effective.cut step'
      have sameStack := run.spec.1
      rw [sameStack] at run
      exact run

theorem EffectiveStep.unfold {stack stack' after : List String} {node unfolded : Node}
    {outcome : Resolved (Option Node)} {found : Option Node} :
    schema.EffectiveStep value stack node outcome after → schema.Unfolds node unfolded →
      stack' ⊆ stack → outcome = .ok found →
      ∃ after', schema.EffectiveStep value stack' unfolded outcome after'
  | .dangling follows, unfolds, fewer, _ => by
      obtain ⟨_, after', follows', _, ⟨⟩⟩ := follows.unfold unfolds fewer
      exact ⟨after', .dangling follows'⟩
  | .merged follows merges chooses, unfolds, fewer, succeeded => by
      obtain ⟨_, inner', follows', within, ⟨recomposes⟩⟩ := follows.unfold unfolds fewer
      have merges' := merges.unfold recomposes within rfl
      obtain ⟨sameOneOf, sameAnyOf⟩ := merges.union_eq
      have oneOf := recomposes.oneOf
      have anyOf := recomposes.anyOf
      rw [← sameOneOf] at oneOf
      rw [← sameAnyOf] at anyOf
      rw [← merges.spec.1] at within
      exact ⟨_, .merged follows' merges' (chooses.unfold oneOf anyOf within succeeded)⟩

theorem Merges.unfold {stack stack' after : List String} {node unfolded merged : Node}
    {outcome : Resolved Node} :
    schema.Merges value stack node outcome after → schema.Recomposes node unfolded →
      stack' ⊆ stack → outcome = .ok merged →
      schema.Merges value stack' unfolded (.ok (merged.withUnionOf unfolded)) stack'
  | .plain plain, recomposes, _, rfl => by
      have plain' := recomposes.allOf.eq_nil plain
      have same : node.withUnionOf unfolded = unfolded := by
        rw [recomposes.elsewhere, Node.withUnionOf, plain', ← plain]
      rw [same]
      exact .plain plain'
  | .merged branches merges, recomposes, fewer, rfl => by
      have branches' : unfolded.allOf ≠ [] := by
        rw [← List.isEmpty_eq_false_iff, recomposes.allOf.isEmpty_eq]
        exact List.isEmpty_eq_false_iff.mpr branches
      have merges' := merges.unfold recomposes.allOf fewer rfl
      rw [← recomposes.base_eq] at merges'
      have run := Merges.merged branches' merges'
      exact run

theorem MergesOver.unfold {stack stack' after : List String} {merged result : Node}
    {branches unfolded : List Node} {outcome : Resolved Node} :
    schema.MergesOver value stack merged branches outcome after →
      schema.UnfoldsAll branches unfolded → stack' ⊆ stack → outcome = .ok result →
      schema.MergesOver value stack' merged unfolded outcome stack'
  | .done, .nil, _, _ => .done
  | .skipped effective merges, .cons unfolds later, fewer, succeeded => by
      have effective' := effective.unfold unfolds fewer rfl
      rw [← effective.spec.1] at fewer
      exact .skipped effective' (merges.unfold later fewer succeeded)
  | .overlaid effective merges, .cons unfolds later, fewer, succeeded => by
      have effective' := effective.unfold unfolds fewer rfl
      rw [← effective.spec.1] at fewer
      exact .overlaid effective' (merges.unfold later fewer succeeded)

theorem Chooses.unfold {stack stack' after : List String} {node other : Node}
    {outcome : Resolved (Option Node)} {found : Option Node} :
    schema.Chooses value stack node outcome after →
      schema.UnfoldsAll node.oneOf other.oneOf → schema.UnfoldsAll node.anyOf other.anyOf →
      stack' ⊆ stack → outcome = .ok found →
      schema.Chooses value stack' (node.withUnionOf other) outcome stack'
  | .single single, oneOf, anyOf, _, _ => by
      obtain ⟨noOneOf, noAnyOf⟩ : node.oneOf = [] ∧ node.anyOf = [] := by
        simpa [Node.isUnion] using single
      have single' := (oneOf.isUnion_eq anyOf).trans single
      rw [Node.withUnionOf_eq_self noOneOf noAnyOf single']
      exact .single single
  | .unmatched union selects, oneOf, anyOf, fewer, _ => by
      obtain ⟨found', selects', same⟩ := selects.unfold (oneOf.alternatives anyOf) fewer rfl
      rw [Option.map_eq_none_iff.mp same] at selects'
      exact .unmatched ((oneOf.isUnion_eq anyOf).trans union) selects'
  | .inapplicable union selects atPosition effective, oneOf, anyOf, fewer, _ => by
      obtain ⟨found', selects', same⟩ := selects.unfold (oneOf.alternatives anyOf) fewer rfl
      obtain ⟨⟨_, target⟩, rfl, rfl⟩ := Option.map_eq_some_iff.mp same
      obtain ⟨alternative, atPosition', unfolds⟩ :=
        (oneOf.alternatives anyOf).getElem? atPosition
      rw [← selects.stack_eq] at fewer
      exact .inapplicable ((oneOf.isUnion_eq anyOf).trans union) selects' atPosition'
        (effective.unfold unfolds fewer rfl)
  | .chosen union selects atPosition effective, oneOf, anyOf, fewer, _ => by
      obtain ⟨found', selects', same⟩ := selects.unfold (oneOf.alternatives anyOf) fewer rfl
      obtain ⟨⟨_, target⟩, rfl, rfl⟩ := Option.map_eq_some_iff.mp same
      obtain ⟨alternative, atPosition', unfolds⟩ :=
        (oneOf.alternatives anyOf).getElem? atPosition
      rw [← selects.stack_eq] at fewer
      exact .chosen ((oneOf.isUnion_eq anyOf).trans union) selects' atPosition'
        (effective.unfold unfolds fewer rfl)

end

theorem effectiveFrom_unfold {stack stack' : List String} {node unfolded : Node}
    {found : Option Node} (succeeds : schema.effectiveFrom value stack node = .ok found)
    (unfolds : schema.Unfolds node unfolded) (fewer : stack' ⊆ stack) :
    schema.effectiveFrom value stack' unfolded = .ok found := by
  obtain ⟨outcome, after, effective⟩ := exists_effective schema value stack node
  have succeeded : outcome = .ok found := effective.spec.2.symm.trans succeeds
  have unfoldedRun := effective.unfold unfolds fewer succeeded
  exact unfoldedRun.spec.2.trans succeeded

/-- A reference stands for its target: what is found for a node is found where references of
it, at the places that composition leads to, are replaced by the nodes that they name.  Where
no reference leads back to itself at one place, both come to the same in any case.  The
references that were entered before decide on failures only: what is found with some of them
on the stack is found with none. -/
theorem reference_stands_for_target (schema : Schema) (value : Json) {node unfolded : Node}
    (unfolds : schema.Unfolds node unfolded) :
    (∀ found, schema.effective value node = .ok found →
        schema.effective value unfolded = .ok found) ∧
      (schema.Acyclic → schema.effective value unfolded = schema.effective value node) ∧
      ∀ stack found, schema.effectiveFrom value stack node = .ok found →
        schema.effective value node = .ok found := by
  have carries : ∀ found, schema.effective value node = .ok found →
      schema.effective value unfolded = .ok found :=
    fun found succeeds => effectiveFrom_unfold succeeds unfolds (List.Subset.refl [])
  refine ⟨carries, ?_, ?_⟩
  · intro acyclic
    obtain ⟨found, succeeds⟩ := acyclic.effective_ok value node
    rw [succeeds, carries found succeeds]
  · intro stack found succeeds
    exact effectiveFrom_unfold succeeds (.kept node) (List.nil_subset stack)

/-- A tree that may be described twice over, with one alternative. -/
def twofoldTree (first second alternative : Node) : Node :=
  { Node.any with allOf := [first, second], anyOf := [alternative] }

/-- Two of three references are replaced. -/
theorem reference_stands_for_target_on_trees :
    ∃ tree, treeSchema.definition? "#/definitions/tree" = some tree ∧
      let value := Json.object [("child", .null)]
      let node := twofoldTree treeSchema.root treeSchema.root treeSchema.root
      let unfolded := twofoldTree tree treeSchema.root tree
      treeSchema.Unfolds node unfolded ∧ treeSchema.Acyclic ∧
        treeSchema.effective value unfolded = treeSchema.effective value node ∧
        ∃ found, treeSchema.effective value node = .ok (some found) ∧
          treeSchema.effective value unfolded = .ok (some found) := by
  refine ⟨_, rfl, ?_⟩
  intro value node unfolded
  have unfolds : treeSchema.Unfolds node unfolded :=
    .composed .nil (.cons (.replaced rfl rfl (.kept _)) .nil)
      (.cons (.replaced rfl rfl (.kept _)) (.cons (.kept _) .nil))
  obtain ⟨carries, agrees, _⟩ := reference_stands_for_target treeSchema value unfolds
  have follows : treeSchema.Follows [] treeSchema.root (.ok (some _)) _ :=
    .entered rfl (by simp) rfl (.arrived rfl)
  have below : treeSchema.EffectiveStep value [] treeSchema.root (.ok (some _)) _ :=
    .merged follows (.plain rfl) (.single rfl)
  have merges : treeSchema.Merges value [] node (.ok _) [] :=
    .merged (List.cons_ne_nil _ _) (.overlaid (.cut below) (.overlaid (.cut below) .done))
  have selects : treeSchema.Selects value [] 0 [treeSchema.root] (.ok (some (0, _))) _ :=
    .admitted follows (.single rfl rfl)
  have step : treeSchema.EffectiveStep value [] node (.ok _) [] :=
    .merged (.arrived rfl) merges (.chosen rfl selects rfl (.cut below))
  have succeeds : treeSchema.effective value node = .ok (some _) := step.spec.2
  exact ⟨unfolds, treeSchema_acyclic, agrees treeSchema_acyclic, _, succeeds,
    carries _ succeeds⟩

end Schema

end Pipewright
