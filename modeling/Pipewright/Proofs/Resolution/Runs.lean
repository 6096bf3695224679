import Pipewright.Proofs.Resolution.Selection

/-!
# Runs of resolution

The node that applies at a place is found by following references, merging branches
and choosing an alternative, each of which may come back to the beginning with a
longer stack.  Every stack and node has a run, and its outcome is the one that
`effectiveFrom` gives.
-/

namespace Pipewright

namespace Node

/-- The node with the union of another one. -/
def withUnionOf (node other : Node) : Node :=
  { node with oneOf := other.oneOf, anyOf := other.anyOf }

@[simp] theorem isUnion_withUnionOf (node other : Node) :
    (node.withUnionOf other).isUnion = other.isUnion := rfl

@[simp] theorem alternatives_withUnionOf (node other : Node) :
    (node.withUnionOf other).alternatives = other.alternatives := rfl

@[simp] theorem base_withUnionOf (node other : Node) :
    (node.withUnionOf other).base = node.base := rfl

theorem withUnionOf_eq_self {node other : Node} (noOneOf : node.oneOf = [])
    (noAnyOf : node.anyOf = []) (single : other.isUnion = false) :
    node.withUnionOf other = node := by
  obtain ⟨noOther, noOther'⟩ : other.oneOf = [] ∧ other.anyOf = [] := by
    simpa [isUnion] using single
  simp only [withUnionOf, noOther, noOther']
  cases node
  simp_all

end Node

namespace Schema

mutual

/-- Finding the node that applies, with the stack cut back. -/
inductive Effective (schema : Schema) (value : Json) :
    List String → Node → Resolved (Option Node) → List String → Prop where
  | cut {stack after : List String} {node : Node} {outcome : Resolved (Option Node)} :
      EffectiveStep schema value stack node outcome after →
      Effective schema value stack node outcome (after.take stack.length)

/-- Following references, merging branches, and then choosing an alternative. -/
inductive EffectiveStep (schema : Schema) (value : Json) :
    List String → Node → Resolved (Option Node) → List String → Prop where
  | unfollowed {stack inner : List String} {node : Node} {cycle : CyclicReference} :
      Follows schema stack node (.error cycle) inner →
      EffectiveStep schema value stack node (.error cycle) inner
  | dangling {stack inner : List String} {node : Node} :
      Follows schema stack node (.ok none) inner →
      EffectiveStep schema value stack node (.ok none) inner
  | unmerged {stack inner after : List String} {node target : Node}
      {cycle : CyclicReference} :
      Follows schema stack node (.ok (some target)) inner →
      Merges schema value inner target (.error cycle) after →
      EffectiveStep schema value stack node (.error cycle) after
  | merged {stack inner between after : List String} {node target merged : Node}
      {outcome : Resolved (Option Node)} :
      Follows schema stack node (.ok (some target)) inner →
      Merges schema value inner target (.ok merged) between →
      Chooses schema value between merged outcome after →
      EffectiveStep schema value stack node outcome after

/-- Merging the branches of a node over its base.  The union of the node itself is
kept for the choice that follows. -/
inductive Merges (schema : Schema) (value : Json) :
    List String → Node → Resolved Node → List String → Prop where
  | plain {stack : List String} {node : Node} :
      node.allOf = [] → Merges schema value stack node (.ok node) stack
  | failed {stack after : List String} {node : Node} {cycle : CyclicReference} :
      node.allOf ≠ [] →
      MergesOver schema value stack node.base node.allOf (.error cycle) after →
      Merges schema value stack node (.error cycle) after
  | merged {stack after : List String} {node merged : Node} :
      node.allOf ≠ [] →
      MergesOver schema value stack node.base node.allOf (.ok merged) after →
      Merges schema value stack node
        (.ok (merged.withUnionOf node)) after

/-- Merging some branches over a node, in order. -/
inductive MergesOver (schema : Schema) (value : Json) :
    List String → Node → List Node → Resolved Node → List String → Prop where
  | done {stack : List String} {merged : Node} :
      MergesOver schema value stack merged [] (.ok merged) stack
  | failed {stack after : List String} {merged branch : Node} {rest : List Node}
      {cycle : CyclicReference} :
      Effective schema value stack branch (.error cycle) after →
      MergesOver schema value stack merged (branch :: rest) (.error cycle) after
  | skipped {stack between after : List String} {merged branch : Node} {rest : List Node}
      {outcome : Resolved Node} :
      Effective schema value stack branch (.ok none) between →
      MergesOver schema value between merged rest outcome after →
      MergesOver schema value stack merged (branch :: rest) outcome after
  | overlaid {stack between after : List String} {merged branch found : Node}
      {rest : List Node} {outcome : Resolved Node} :
      Effective schema value stack branch (.ok (some found)) between →
      MergesOver schema value between (merged.overlay found) rest outcome after →
      MergesOver schema value stack merged (branch :: rest) outcome after

/-- Choosing an alternative and entering it once more, as it is declared, so that
its reference is on the stack again. -/
inductive Chooses (schema : Schema) (value : Json) :
    List String → Node → Resolved (Option Node) → List String → Prop where
  | single {stack : List String} {node : Node} :
      node.isUnion = false →
      Chooses schema value stack node (.ok (keepIfAccepted value node)) stack
  | unselected {stack after : List String} {node : Node} {cycle : CyclicReference} :
      node.isUnion = true →
      Selects schema value stack 0 node.alternatives (.error cycle) after →
      Chooses schema value stack node (.error cycle) after
  | unmatched {stack after : List String} {node : Node} :
      node.isUnion = true →
      Selects schema value stack 0 node.alternatives (.ok none) after →
      Chooses schema value stack node (.ok none) after
  | failed {stack between after : List String} {node alternative target : Node}
      {position : Nat} {cycle : CyclicReference} :
      node.isUnion = true →
      Selects schema value stack 0 node.alternatives (.ok (some (position, target))) between →
      node.alternatives[position]? = some alternative →
      Effective schema value between alternative (.error cycle) after →
      Chooses schema value stack node (.error cycle) after
  | inapplicable {stack between after : List String} {node alternative target : Node}
      {position : Nat} :
      node.isUnion = true →
      Selects schema value stack 0 node.alternatives (.ok (some (position, target))) between →
      node.alternatives[position]? = some alternative →
      Effective schema value between alternative (.ok none) after →
      Chooses schema value stack node (.ok none) after
  | chosen {stack between after : List String} {node alternative target branch : Node}
      {position : Nat} :
      node.isUnion = true →
      Selects schema value stack 0 node.alternatives (.ok (some (position, target))) between →
      node.alternatives[position]? = some alternative →
      Effective schema value between alternative (.ok (some branch)) after →
      Chooses schema value stack node
        (.ok (keepIfAccepted value (node.base.overlay branch))) after

end

variable {schema : Schema} {value : Json}

/-! ## The parts of a step -/

/-- The node with its branches merged; the union of the node itself is kept. -/
def composed (schema : Schema) (value : Json) (stack : List String) (node : Node) :
    Resolved Node :=
  if node.allOf.isEmpty then .ok node
  else
    (schema.mergeBranches value stack node.base node.allOf).map (·.withUnionOf node)

/-- The node with its alternative chosen. -/
def chosen (schema : Schema) (value : Json) (stack : List String) (node : Node) :
    Resolved (Option Node) :=
  if node.isUnion then
    match schema.effectiveAlternative value stack node.alternatives with
    | .error cycle => .error cycle
    | .ok none => .ok none
    | .ok (some branch) => .ok (keepIfAccepted value (node.base.overlay branch))
  else .ok (keepIfAccepted value node)

theorem eq_of_keepIfAccepted {node found : Node}
    (kept : keepIfAccepted value node = some found) : found = node := by
  unfold keepIfAccepted at kept
  split at kept
  · cases kept; rfl
  · cases kept

/-- What merging over a node keeps, when something is laid over it that was found for a branch,
merging branches keeps. -/
theorem mergeBranches_keeps (keeps : Node → Prop) {stack : List String} {merged result : Node}
    {branches : List Node}
    (overlaid : ∀ {lower branch upper : Node}, keeps lower →
      schema.effectiveFrom value stack branch = .ok (some upper) → keeps (lower.overlay upper))
    (kept : keeps merged)
    (merges : schema.mergeBranches value stack merged branches = .ok result) : keeps result := by
  induction branches generalizing merged with
  | nil =>
      rw [mergeBranches] at merges
      cases merges
      exact kept
  | cons branch rest inner =>
      rw [mergeBranches] at merges
      split at merges
      · cases merges
      · exact inner kept merges
      · next found => exact inner (overlaid kept found) merges

/-- Merging branches never brings a union in. -/
theorem mergeBranches_no_union {stack : List String} {merged result : Node}
    {branches : List Node} (oneOf : merged.oneOf = []) (anyOf : merged.anyOf = [])
    (merges : schema.mergeBranches value stack merged branches = .ok result) :
    result.oneOf = [] ∧ result.anyOf = [] :=
  mergeBranches_keeps (fun node => node.oneOf = [] ∧ node.anyOf = [])
    (fun _ _ => ⟨rfl, rfl⟩) ⟨oneOf, anyOf⟩ merges

theorem chosen_of_isUnion {stack : List String} {node : Node} (union : node.isUnion = true) :
    schema.chosen value stack node =
      match schema.effectiveAlternative value stack node.alternatives with
      | .error cycle => .error cycle
      | .ok none => .ok none
      | .ok (some branch) => .ok (keepIfAccepted value (node.base.overlay branch)) := by
  rw [chosen, if_pos union]

theorem chosen_of_single {stack : List String} {node : Node} (single : node.isUnion = false) :
    schema.chosen value stack node = .ok (keepIfAccepted value node) := by
  rw [chosen, if_neg (Bool.eq_false_iff.mp single)]

theorem composed_of_plain {stack : List String} {node : Node} (plain : node.allOf = []) :
    schema.composed value stack node = .ok node := by
  simp [composed, plain]

theorem composed_of_branches {stack : List String} {node : Node} (branches : node.allOf ≠ []) :
    schema.composed value stack node =
      (schema.mergeBranches value stack node.base node.allOf).map (·.withUnionOf node) := by
  simp [composed, branches]

theorem effectiveFrom_of_followed {stack inner : List String} {node target : Node}
    (followed : schema.follow stack node = .ok (some (target, inner))) :
    schema.effectiveFrom value stack node =
      (schema.composed value inner target).bind (schema.chosen value inner) := by
  rw [effectiveFrom]
  split
  · simp_all
  · simp_all
  · next same =>
      rw [followed] at same
      cases same
      by_cases plain : target.allOf = []
      · rw [composed_of_plain plain]
        simp only [plain, List.isEmpty_nil, if_true]
        rfl
      · rw [composed_of_branches plain]
        simp only [List.isEmpty_iff, plain, if_false]
        cases merges : schema.mergeBranches value inner target.base target.allOf with
        | error cycle => rfl
        | ok merged =>
            obtain ⟨noOneOf, noAnyOf⟩ := mergeBranches_no_union rfl rfl merges
            simp only [Except.map, Except.bind]
            by_cases union : target.isUnion = true
            · have union' : (merged.withUnionOf target).isUnion = true := union
              rw [if_pos union, chosen_of_isUnion union']
              rfl
            · have single := Bool.eq_false_iff.mpr union
              have single' : (merged.withUnionOf target).isUnion = false := single
              rw [if_neg union, chosen_of_single single',
                Node.withUnionOf_eq_self noOneOf noAnyOf single]

/-- A node without references, branches and alternatives is its own effective node. -/
theorem effective_of_plain {node : Node} (noReference : node.reference = none)
    (noBranches : node.allOf = []) (single : node.isUnion = false) :
    schema.effective value node = .ok (keepIfAccepted value node) := by
  rw [effective, effectiveFrom_of_followed (follow_of_no_reference noReference),
    composed_of_plain noBranches]
  exact chosen_of_single single

/-! ## Runs have the outcome of the functions -/

mutual

theorem Effective.spec {stack after : List String} {node : Node}
    {outcome : Resolved (Option Node)} :
    schema.Effective value stack node outcome after →
      after = stack ∧ schema.effectiveFrom value stack node = outcome
  | .cut step => by
      obtain ⟨pushes, same⟩ := step.spec
      exact ⟨(List.prefix_iff_eq_take.mp pushes).symm, same⟩

theorem EffectiveStep.spec {stack after : List String} {node : Node}
    {outcome : Resolved (Option Node)} :
    schema.EffectiveStep value stack node outcome after →
      stack <+: after ∧ schema.effectiveFrom value stack node = outcome
  | .unfollowed follows => by
      refine ⟨follows.pushes, ?_⟩
      rw [effectiveFrom]
      have unfollowed := follows.follow_error
      split <;> simp_all
  | .dangling follows => by
      refine ⟨follows.pushes, ?_⟩
      rw [effectiveFrom]
      have dangling := follows.follow_dangling
      split <;> simp_all
  | .unmerged follows merges => by
      obtain ⟨sameStack, unmerged⟩ := merges.spec
      rw [sameStack, effectiveFrom_of_followed follows.follow_eq, unmerged]
      exact ⟨follows.pushes, rfl⟩
  | .merged follows merges chooses => by
      obtain ⟨sameStack, merged⟩ := merges.spec
      obtain ⟨sameStack', chosen⟩ := chooses.spec
      rw [sameStack', sameStack, effectiveFrom_of_followed follows.follow_eq, merged]
      rw [sameStack] at chosen
      exact ⟨follows.pushes, chosen⟩

theorem Merges.spec {stack after : List String} {node : Node} {outcome : Resolved Node} :
    schema.Merges value stack node outcome after →
      after = stack ∧ schema.composed value stack node = outcome
  | .plain plain => ⟨rfl, composed_of_plain plain⟩
  | .failed branches merges => by
      obtain ⟨sameStack, failed⟩ := merges.spec
      rw [composed_of_branches branches, failed]
      exact ⟨sameStack, rfl⟩
  | .merged branches merges => by
      obtain ⟨sameStack, merged⟩ := merges.spec
      rw [composed_of_branches branches, merged]
      exact ⟨sameStack, rfl⟩

theorem MergesOver.spec {stack after : List String} {merged : Node} {branches : List Node}
    {outcome : Resolved Node} :
    schema.MergesOver value stack merged branches outcome after →
      after = stack ∧ schema.mergeBranches value stack merged branches = outcome
  | .done => ⟨rfl, by rw [mergeBranches]⟩
  | .failed effective => by
      obtain ⟨sameStack, failed⟩ := effective.spec
      rw [mergeBranches, failed]
      exact ⟨sameStack, rfl⟩
  | .skipped effective merges => by
      obtain ⟨sameStack, skipped⟩ := effective.spec
      have rest := merges.spec
      rw [sameStack] at rest
      rw [mergeBranches, skipped]
      exact rest
  | .overlaid effective merges => by
      obtain ⟨sameStack, found⟩ := effective.spec
      have rest := merges.spec
      rw [sameStack] at rest
      rw [mergeBranches, found]
      exact rest

theorem Chooses.spec {stack after : List String} {node : Node}
    {outcome : Resolved (Option Node)} :
    schema.Chooses value stack node outcome after →
      after = stack ∧ schema.chosen value stack node = outcome
  | .single single => ⟨rfl, chosen_of_single single⟩
  | .unselected union selects => by
      refine ⟨selects.stack_eq, ?_⟩
      rw [chosen_of_isUnion union, selects.effectiveAlternative_of_unselected]
  | .unmatched union selects => by
      refine ⟨selects.stack_eq, ?_⟩
      rw [chosen_of_isUnion union, selects.effectiveAlternative_of_unmatched]
  | .failed union selects atPosition effective => by
      obtain ⟨sameStack, failed⟩ := effective.spec
      rw [selects.stack_eq] at sameStack failed
      refine ⟨sameStack, ?_⟩
      rw [chosen_of_isUnion union, selects.effectiveAlternative_at atPosition, failed]
  | .inapplicable union selects atPosition effective => by
      obtain ⟨sameStack, inapplicable⟩ := effective.spec
      rw [selects.stack_eq] at sameStack inapplicable
      refine ⟨sameStack, ?_⟩
      rw [chosen_of_isUnion union, selects.effectiveAlternative_at atPosition, inapplicable]
  | .chosen union selects atPosition effective => by
      obtain ⟨sameStack, found⟩ := effective.spec
      rw [selects.stack_eq] at sameStack found
      refine ⟨sameStack, ?_⟩
      rw [chosen_of_isUnion union, selects.effectiveAlternative_at atPosition, found]

end

/-! ## Runs exist -/

/-- Merging branches keeps the alternatives. -/
theorem Merges.alternatives_eq {stack after : List String} {node merged : Node} :
    schema.Merges value stack node (.ok merged) after → merged.alternatives = node.alternatives
  | .plain _ => rfl
  | .merged _ _ => rfl

mutual

theorem exists_effective (schema : Schema) (value : Json) (stack : List String) (node : Node) :
    ∃ outcome after, schema.Effective value stack node outcome after := by
  obtain ⟨followed, inner, follows⟩ := exists_follows schema stack node
  match followed with
  | .error cycle => exact ⟨_, _, .cut (.unfollowed follows)⟩
  | .ok none => exact ⟨_, _, .cut (.dangling follows)⟩
  | .ok (some target) =>
      have merging : ∃ outcome after, schema.Merges value inner target outcome after := by
        by_cases branches : target.allOf = []
        · exact ⟨_, _, .plain branches⟩
        · obtain ⟨outcome, after, merges⟩ :=
            exists_mergesOver schema value inner target.base target.allOf
          match outcome with
          | .error cycle => exact ⟨_, _, .failed branches merges⟩
          | .ok merged => exact ⟨_, _, .merged branches merges⟩
      obtain ⟨merged, between, merges⟩ := merging
      match merged with
      | .error cycle => exact ⟨_, _, .cut (.unmerged follows merges)⟩
      | .ok merged =>
          obtain ⟨outcome, after, chooses⟩ := exists_chooses schema value inner merged
          have sameStack := merges.spec.1
          exact ⟨_, _, .cut (.merged follows merges (by rwa [sameStack]))⟩
termination_by (schema.freeReferences stack, sizeOf node)
decreasing_by
  · rcases follow_progress follows.follow_eq with ⟨sameStack, sameNode⟩ | further
    · subst sameStack sameNode
      exact Prod.Lex.right _ (Node.sizeOf_allOf_lt _)
    · exact Prod.Lex.left _ _ further
  · rcases follow_progress follows.follow_eq with ⟨sameStack, sameNode⟩ | further
    · subst sameStack sameNode
      apply Prod.Lex.right
      rw [merges.alternatives_eq]
      exact Node.sizeOf_alternatives_lt _
    · exact Prod.Lex.left _ _ further

theorem exists_chooses (schema : Schema) (value : Json) (stack : List String) (node : Node) :
    ∃ outcome after, schema.Chooses value stack node outcome after := by
  cases union : node.isUnion with
  | false => exact ⟨_, _, .single union⟩
  | true =>
      obtain ⟨selected, between, selects⟩ := exists_selects schema value stack 0 node.alternatives
      have sameStack := selects.stack_eq
      match selected with
      | .error cycle => exact ⟨_, _, .unselected union selects⟩
      | .ok none => exact ⟨_, _, .unmatched union selects⟩
      | .ok (some (position, target)) =>
          obtain ⟨alternative, atPosition⟩ := selects.exists_alternative
          obtain ⟨found, after, effective⟩ := exists_effective schema value stack alternative
          rw [← sameStack] at effective
          match found with
          | .error cycle => exact ⟨_, _, .failed union selects atPosition effective⟩
          | .ok none => exact ⟨_, _, .inapplicable union selects atPosition effective⟩
          | .ok (some branch) => exact ⟨_, _, .chosen union selects atPosition effective⟩
termination_by (schema.freeReferences stack, sizeOf node.alternatives)
decreasing_by
  apply Prod.Lex.right
  exact List.sizeOf_lt_of_mem (List.mem_of_getElem? atPosition)

theorem exists_mergesOver (schema : Schema) (value : Json) (stack : List String)
    (merged : Node) (branches : List Node) :
    ∃ outcome after, schema.MergesOver value stack merged branches outcome after := by
  match branches with
  | [] => exact ⟨_, _, .done⟩
  | branch :: rest =>
      obtain ⟨found, between, effective⟩ := exists_effective schema value stack branch
      have sameStack := effective.spec.1
      match found with
      | .error cycle => exact ⟨_, _, .failed effective⟩
      | .ok none =>
          obtain ⟨outcome, after, merges⟩ := exists_mergesOver schema value stack merged rest
          exact ⟨outcome, after, .skipped effective (by rwa [sameStack])⟩
      | .ok (some node) =>
          obtain ⟨outcome, after, merges⟩ :=
            exists_mergesOver schema value stack (merged.overlay node) rest
          exact ⟨outcome, after, .overlaid effective (by rwa [sameStack])⟩
termination_by (schema.freeReferences stack, sizeOf branches)
decreasing_by
  all_goals
    apply Prod.Lex.right
    simp only [List.cons.sizeOf_spec]
    omega

end

/-! ## Resolution ends -/

/-- Following references from a node has one outcome, and it is the one of `resolve`. -/
theorem follows_iff (node : Node) (outcome : Resolved (Option Node)) :
    (∃ after, schema.Follows [] node outcome after) ↔ outcome = schema.resolve node := by
  constructor
  · rintro ⟨after, follows⟩
    exact follows.outcome_eq.symm
  · rintro rfl
    obtain ⟨outcome, after, follows⟩ := exists_follows schema [] node
    have same : schema.resolve node = outcome := follows.outcome_eq
    exact ⟨after, same ▸ follows⟩

theorem selects_iff (alternatives : List Node) (outcome : Resolved (Option Node)) :
    (∃ selected after, schema.Selects value [] 0 alternatives selected after ∧
      outcome = selected.map (·.map (·.2))) ↔
      outcome = schema.selectBranch value alternatives := by
  constructor
  · rintro ⟨selected, after, selects, rfl⟩
    exact selects.outcome_eq.symm
  · rintro rfl
    obtain ⟨selected, after, selects⟩ := exists_selects schema value [] 0 alternatives
    exact ⟨selected, after, selects, selects.outcome_eq⟩

theorem effective_iff (node : Node) (outcome : Resolved (Option Node)) :
    (∃ after, schema.Effective value [] node outcome after) ↔
      outcome = schema.effective value node := by
  constructor
  · rintro ⟨after, effective⟩
    exact effective.spec.2.symm
  · rintro rfl
    obtain ⟨outcome, after, effective⟩ := exists_effective schema value [] node
    have same : schema.effective value node = outcome := effective.spec.2
    exact ⟨after, same ▸ effective⟩

end Schema

end Pipewright
