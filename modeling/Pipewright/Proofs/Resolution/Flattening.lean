import Pipewright.Proofs.Resolution.Applicability

/-!
# Nested composition

An alternative that only offers alternatives may be replaced by them, and a branch that only
merges branches as well.  Resolution goes one level less deep then.  What it merges on the way
is merged in another order, which gives the same node since merging is associative.
-/

namespace Pipewright

namespace Node

/-- The node with other alternatives, in the list that decides. -/
def withAlternatives (node : Node) (alternatives : List Node) : Node :=
  if node.oneOf.isEmpty then { node with anyOf := alternatives }
  else { node with oneOf := alternatives }

/-- The node with other branches. -/
def withBranches (node : Node) (branches : List Node) : Node :=
  { node with allOf := branches }

/-- The node declares these alternatives and nothing else. -/
inductive OffersOnly (alternatives : List Node) : Node → Prop where
  | oneOf : OffersOnly alternatives { any with oneOf := alternatives }
  | anyOf : OffersOnly alternatives { any with anyOf := alternatives }

/-- The node that declares these branches and nothing else. -/
def mergingOnly (branches : List Node) : Node :=
  { any with allOf := branches }

theorem withAlternatives_eq (node : Node) (alternatives : List Node) :
    node.withAlternatives alternatives =
      node.withUnionOf (node.withAlternatives alternatives) := by
  unfold withAlternatives
  split <;> rfl

theorem reference_withAlternatives (node : Node) (alternatives : List Node) :
    (node.withAlternatives alternatives).reference = node.reference := by
  rw [withAlternatives_eq]
  rfl

theorem alternatives_withAlternatives (node : Node) {alternatives : List Node}
    (offered : alternatives ≠ []) :
    (node.withAlternatives alternatives).alternatives = alternatives := by
  unfold withAlternatives
  split
  · next empty => simp [Node.alternatives, empty]
  · simp [Node.alternatives, offered]

theorem isUnion_of_alternatives {node : Node} (offered : node.alternatives ≠ []) :
    node.isUnion = true := by
  unfold Node.alternatives at offered
  unfold isUnion
  split at offered
  · simp [offered]
  · next filled => simp [filled]

theorem base_base (node : Node) : node.base.base = node.base := by
  simp [base, overlay, any, addNames]

theorem base_of_overlay (lower upper : Node) :
    (lower.overlay upper).base = lower.overlay upper := by
  simp [base, overlay, any, addNames]

/-- The empty node may stand between two layers. -/
theorem overlay_any_overlay (lower upper : Node) :
    lower.overlay (any.overlay upper) = lower.overlay upper := by
  have assoc := overlay_overlay namesDistinct_any lower upper
  rw [← base, base_overlay] at assoc
  exact assoc

namespace OffersOnly

variable {nested : Node} {inner : List Node}

theorem alternatives_eq (offers : nested.OffersOnly inner) : nested.alternatives = inner := by
  cases offers with
  | oneOf =>
      cases inner with
      | nil => rfl
      | cons => rfl
  | anyOf => rfl

theorem admitsAlone (offers : nested.OffersOnly inner) (value : Json) :
    nested.admitsAlone value = true := by
  cases offers <;> cases value <;> rfl

theorem isUnion_eq (offers : nested.OffersOnly inner) (offered : inner ≠ []) :
    nested.isUnion = true :=
  isUnion_of_alternatives (by rwa [offers.alternatives_eq])

theorem base_eq (offers : nested.OffersOnly inner) : nested.base = any := by
  cases offers <;> rfl

theorem reference_eq (offers : nested.OffersOnly inner) : nested.reference = none := by
  cases offers <;> rfl

theorem allOf_eq (offers : nested.OffersOnly inner) : nested.allOf = [] := by
  cases offers <;> rfl

end OffersOnly

end Node

namespace Schema

variable {schema : Schema} {value : Json} {stack : List String}

/-- Of a reference nothing but the reference counts. -/
theorem follow_of_same_reference {node other : Node} {reference : String}
    (isReference : node.reference = some reference)
    (isReference' : other.reference = some reference) :
    schema.follow stack other = schema.follow stack node := by
  by_cases seen : reference ∈ stack
  · rw [follow_of_seen isReference seen, follow_of_seen isReference' seen]
  · cases named : schema.definition? reference with
    | none =>
        rw [follow_of_missing isReference seen named, follow_of_missing isReference' seen named]
    | some target =>
        rw [follow_of_found isReference seen named, follow_of_found isReference' seen named]

theorem effectiveFrom_of_same_reference {node other : Node} {reference : String}
    (isReference : node.reference = some reference)
    (isReference' : other.reference = some reference) :
    schema.effectiveFrom value stack other = schema.effectiveFrom value stack node := by
  rw [effectiveFrom_eq, effectiveFrom_eq, follow_of_same_reference isReference isReference']

theorem effectiveFrom_of_no_reference {node : Node} (noReference : node.reference = none) :
    schema.effectiveFrom value stack node =
      (schema.composed value stack node).bind (schema.chosen value stack) :=
  effectiveFrom_of_followed (follow_of_no_reference noReference)

/-! ## Alternatives in place of an alternative -/

theorem effectiveAlternative_cons (alternative : Node) (rest : List Node) :
    schema.effectiveAlternative value stack (alternative :: rest) =
      otherwise (schema.effectiveAlternative value stack [alternative])
        (schema.effectiveAlternative value stack rest) := by
  match tried : schema.firstAdmitted value stack [alternative] with
  | .error cycle =>
      rw [effectiveAlternative_of_failed tried, effectiveAlternative_of_failed tried]
      rfl
  | .ok none =>
      rw [effectiveAlternative_of_passed tried, effectiveAlternative_of_passed tried,
        effectiveAlternative]
      rfl
  | .ok (some target) =>
      have applies : schema.effectiveAlternative value stack [alternative] ≠ .ok none := by
        intro dropped
        rw [effectiveAlternative_eq_none_iff, tried] at dropped
        cases dropped
      rw [effectiveAlternative_of_admitted tried] at applies ⊢
      rw [effectiveAlternative_of_admitted tried]
      match found : schema.effectiveFrom value stack alternative with
      | .error cycle => rfl
      | .ok none => exact absurd found applies
      | .ok (some branch) => rfl

theorem effectiveAlternative_append (front back : List Node) :
    schema.effectiveAlternative value stack (front ++ back) =
      otherwise (schema.effectiveAlternative value stack front)
        (schema.effectiveAlternative value stack back) := by
  induction front with
  | nil =>
      have nothing : schema.effectiveAlternative value stack [] = .ok none := by
        rw [effectiveAlternative]
      rw [List.nil_append, nothing]
      rfl
  | cons alternative rest inner =>
      rw [List.cons_append, effectiveAlternative_cons, inner,
        effectiveAlternative_cons alternative rest, otherwise_assoc]

/-- Choosing an alternative lays what is found for it over the base. -/
theorem chosen_eq_map {node : Node} (union : node.isUnion = true) :
    schema.chosen value stack node =
      (schema.effectiveAlternative value stack node.alternatives).map
        (·.bind fun branch => keepIfAccepted value (node.base.overlay branch)) := by
  rw [chosen_of_isUnion union]
  match schema.effectiveAlternative value stack node.alternatives with
  | .error cycle => rfl
  | .ok none => rfl
  | .ok (some branch) => rfl

/-- A nested choice is selected where one of its alternatives is. -/
theorem firstAdmitted_nested {nested : Node} {inner : List Node}
    (offers : nested.OffersOnly inner) (offered : inner ≠ []) :
    schema.firstAdmitted value stack [nested] =
      (schema.firstAdmitted value stack inner).map (·.map fun _ => nested) := by
  rw [firstAdmitted_of_followed (follow_of_no_reference offers.reference_eq), admits,
    offers.admitsAlone, offers.alternatives_eq, offers.isUnion_eq offered]
  match schema.firstAdmitted value stack inner with
  | .error cycle => rfl
  | .ok none => simp [Except.map, firstAdmitted]
  | .ok (some target) => rfl

/-- A nested choice finds what its alternatives give, laid over the empty node. -/
theorem effectiveAlternative_nested {nested : Node} {inner : List Node}
    (offers : nested.OffersOnly inner) (offered : inner ≠ []) :
    schema.effectiveAlternative value stack [nested] =
      (schema.effectiveAlternative value stack inner).map (·.map Node.any.overlay) := by
  have tried : schema.firstAdmitted value stack [nested] = _ :=
    firstAdmitted_nested offers offered
  match selected : schema.firstAdmitted value stack inner with
  | .error cycle =>
      rw [selected] at tried
      rw [effectiveAlternative_of_error tried, effectiveAlternative_of_error selected]
      rfl
  | .ok none =>
      rw [selected] at tried
      rw [(effectiveAlternative_eq_none_iff inner).mpr selected,
        (effectiveAlternative_eq_none_iff [nested]).mpr tried]
      rfl
  | .ok (some target) =>
      rw [selected] at tried
      have chosen : schema.effectiveFrom value stack nested = schema.chosen value stack nested := by
        rw [effectiveFrom_of_no_reference offers.reference_eq, composed_of_plain offers.allOf_eq]
        rfl
      rw [effectiveAlternative_of_admitted tried, chosen,
        chosen_eq_map (offers.isUnion_eq offered), offers.alternatives_eq, offers.base_eq]
      match found : schema.effectiveAlternative value stack inner with
      | .error cycle => rfl
      | .ok none => rfl
      | .ok (some branch) =>
          -- the nested choice checks types once more, and what was found has passed already
          have empty : Node.any.acceptsType value = true :=
            Node.acceptsType_of_untyped rfl rfl value
          have accepts := Node.acceptsType_overlay empty (effectiveAlternative_acceptsType found)
          simp [Except.map, keepIfAccepted_of_acceptsType accepts]

/-- What is found for a nested choice and laid over a base is found without the nesting. -/
theorem effectiveAlternative_flatten {nested : Node} {before inner after : List Node}
    (offers : nested.OffersOnly inner) (offered : inner ≠ []) (base : Node) :
    (schema.effectiveAlternative value stack (before ++ inner ++ after)).map
        (·.bind fun branch => keepIfAccepted value (base.overlay branch)) =
      (schema.effectiveAlternative value stack (before ++ nested :: after)).map
        (·.bind fun branch => keepIfAccepted value (base.overlay branch)) := by
  rw [List.append_assoc, effectiveAlternative_append, effectiveAlternative_append inner,
    effectiveAlternative_append before (nested :: after), effectiveAlternative_cons nested,
    effectiveAlternative_nested offers offered]
  match schema.effectiveAlternative value stack before with
  | .error _ => rfl
  | .ok (some _) => rfl
  | .ok none =>
      match schema.effectiveAlternative value stack inner with
      | .error _ => rfl
      | .ok none => rfl
      | .ok (some branch) => simp [otherwise, Except.map, Node.overlay_any_overlay]

/-- Composing does not look at the union of the node. -/
theorem composed_withUnionOf (node other : Node) :
    schema.composed value stack (node.withUnionOf other) =
      (schema.composed value stack node).map (·.withUnionOf other) := by
  by_cases plain : node.allOf = []
  · have plain' : (node.withUnionOf other).allOf = [] := plain
    rw [composed_of_plain plain, composed_of_plain plain']
    rfl
  · have branches : (node.withUnionOf other).allOf ≠ [] := plain
    rw [composed_of_branches plain, composed_of_branches branches, Node.base_withUnionOf]
    change (schema.mergeBranches value stack node.base node.allOf).map _ = _
    cases schema.mergeBranches value stack node.base node.allOf <;> rfl

variable {node : Node} {before inner after : List Node}

theorem effectiveFrom_withAlternatives (offered : inner ≠ []) {nested : Node}
    (offers : nested.OffersOnly inner)
    (contains : node.alternatives = before ++ nested :: after) :
    schema.effectiveFrom value stack (node.withAlternatives (before ++ inner ++ after)) =
      schema.effectiveFrom value stack node := by
  have sameReference := node.reference_withAlternatives (before ++ inner ++ after)
  cases noReference : node.reference with
  | some reference =>
      -- both nodes are the same reference, and what they declare beside it never counts
      exact effectiveFrom_of_same_reference noReference (sameReference.trans noReference)
  | none =>
      rw [effectiveFrom_of_no_reference noReference,
        effectiveFrom_of_no_reference (sameReference.trans noReference),
        Node.withAlternatives_eq, composed_withUnionOf]
      cases composes : schema.composed value stack node with
      | error cycle => rfl
      | ok merged =>
          have filled : before ++ inner ++ after ≠ [] := by simp [offered]
          have flat := node.alternatives_withAlternatives filled
          have union : merged.isUnion = true := by
            rw [composed_isUnion composes]
            exact Node.isUnion_of_alternatives (by simp [contains])
          have union' :
              (merged.withUnionOf (node.withAlternatives (before ++ inner ++ after))).isUnion =
                true :=
            Node.isUnion_of_alternatives (by rwa [Node.alternatives_withUnionOf, flat])
          change schema.chosen value stack (merged.withUnionOf _) =
            schema.chosen value stack merged
          rw [chosen_eq_map union, chosen_eq_map union', Node.base_withUnionOf,
            Node.alternatives_withUnionOf, flat, composed_alternatives composes, contains]
          exact effectiveAlternative_flatten offers offered merged.base

/-! ## Branches in place of a branch -/

theorem mergeBranches_cons (merged branch : Node) (rest : List Node) :
    schema.mergeBranches value stack merged (branch :: rest) =
      (schema.effectiveFrom value stack branch).bind fun found =>
        schema.mergeBranches value stack ((found.map merged.overlay).getD merged) rest := by
  rw [mergeBranches]
  match schema.effectiveFrom value stack branch with
  | .error cycle => rfl
  | .ok none => rfl
  | .ok (some upper) => rfl

theorem mergeBranches_append (merged : Node) (front back : List Node) :
    schema.mergeBranches value stack merged (front ++ back) =
      (schema.mergeBranches value stack merged front).bind
        (schema.mergeBranches value stack · back) := by
  induction front generalizing merged with
  | nil =>
      rw [List.nil_append, mergeBranches]
      rfl
  | cons branch rest inner =>
      rw [List.cons_append, mergeBranches_cons, mergeBranches_cons]
      cases schema.effectiveFrom value stack branch with
      | error cycle => rfl
      | ok found => exact inner ((found.map merged.overlay).getD merged)

/-- Merging over two layers is merging over the upper one and laying the result over the
lower one. -/
theorem mergeBranches_overlay (lower : Node) {middle : Node} (distinct : middle.NamesDistinct)
    (branches : List Node) :
    schema.mergeBranches value stack (lower.overlay middle) branches =
      (schema.mergeBranches value stack middle branches).map lower.overlay := by
  induction branches generalizing middle with
  | nil =>
      rw [mergeBranches, mergeBranches]
      rfl
  | cons branch rest inner =>
      rw [mergeBranches, mergeBranches]
      cases schema.effectiveFrom value stack branch with
      | error cycle => rfl
      | ok found =>
          cases found with
          | none => exact inner distinct
          | some upper =>
              have below := inner (Node.namesDistinct_overlay distinct upper)
              rw [Node.overlay_overlay distinct] at below
              exact below

/-- What is merged has no composition keywords. -/
theorem mergeBranches_base {merged result : Node} {branches : List Node}
    (plain : merged.base = merged)
    (merges : schema.mergeBranches value stack merged branches = .ok result) :
    result.base = result :=
  mergeBranches_keeps (fun node => node.base = node)
    (fun {lower _ upper} _ _ => lower.base_of_overlay upper) plain merges

/-- A branch that only merges branches gives what they merge over the empty node. -/
theorem effectiveFrom_mergingOnly (offered : inner ≠ []) :
    schema.effectiveFrom value stack (Node.mergingOnly inner) =
      (schema.mergeBranches value stack Node.any inner).map some := by
  have branches : (Node.mergingOnly inner).allOf ≠ [] := offered
  have empty : (Node.mergingOnly inner).base = Node.any := rfl
  rw [effectiveFrom_of_no_reference rfl, composed_of_branches branches, empty]
  change ((schema.mergeBranches value stack Node.any inner).map _).bind _ = _
  cases merges : schema.mergeBranches value stack Node.any inner with
  | error cycle => rfl
  | ok result =>
      obtain ⟨noOneOf, noAnyOf⟩ := mergeBranches_no_union rfl rfl merges
      have accepts : result.acceptsType value = true :=
        mergeBranches_acceptsType (Node.acceptsType_of_untyped rfl rfl value) merges
      have same : result.withUnionOf (Node.mergingOnly inner) = result :=
        Node.withUnionOf_eq_self noOneOf noAnyOf rfl
      have single : result.isUnion = false := by
        simp [Node.isUnion, noOneOf, noAnyOf]
      change schema.chosen value stack (result.withUnionOf _) = .ok (some result)
      rw [same, chosen_of_single single, keepIfAccepted_of_acceptsType accepts]

theorem mergeBranches_nested (offered : inner ≠ []) {merged : Node}
    (plain : merged.base = merged) :
    schema.mergeBranches value stack merged [Node.mergingOnly inner] =
      schema.mergeBranches value stack merged inner := by
  have layered : schema.mergeBranches value stack merged.base inner = _ :=
    mergeBranches_overlay merged Node.namesDistinct_any inner
  rw [plain] at layered
  rw [layered, mergeBranches, effectiveFrom_mergingOnly offered]
  cases schema.mergeBranches value stack Node.any inner with
  | error cycle => rfl
  | ok result => simp [Except.map, mergeBranches]

theorem mergeBranches_flatten (offered : inner ≠ []) {merged : Node}
    (plain : merged.base = merged) :
    schema.mergeBranches value stack merged (before ++ inner ++ after) =
      schema.mergeBranches value stack merged (before ++ Node.mergingOnly inner :: after) := by
  rw [List.append_assoc, List.append_cons before, List.append_assoc before,
    mergeBranches_append merged before, mergeBranches_append merged before]
  cases merges : schema.mergeBranches value stack merged before with
  | error cycle => rfl
  | ok result =>
      change schema.mergeBranches value stack result _ = schema.mergeBranches value stack result _
      rw [mergeBranches_append, mergeBranches_append,
        mergeBranches_nested offered (mergeBranches_base plain merges)]

theorem effectiveFrom_withBranches (offered : inner ≠ [])
    (contains : node.allOf = before ++ Node.mergingOnly inner :: after) :
    schema.effectiveFrom value stack (node.withBranches (before ++ inner ++ after)) =
      schema.effectiveFrom value stack node := by
  have sameReference : (node.withBranches (before ++ inner ++ after)).reference =
    node.reference := rfl
  cases noReference : node.reference with
  | some reference =>
      exact effectiveFrom_of_same_reference noReference (sameReference.trans noReference)
  | none =>
      have nested : node.allOf ≠ [] := by simp [contains]
      have flat : (node.withBranches (before ++ inner ++ after)).allOf ≠ [] := by
        simp [Node.withBranches, offered]
      have merges : schema.mergeBranches value stack node.base (before ++ inner ++ after) =
          schema.mergeBranches value stack node.base node.allOf := by
        rw [contains, mergeBranches_flatten offered node.base_base]
      have composes : schema.composed value stack (node.withBranches (before ++ inner ++ after)) =
          schema.composed value stack node := by
        rw [composed_of_branches nested, composed_of_branches flat, ← merges]
        rfl
      rw [effectiveFrom_of_no_reference noReference,
        effectiveFrom_of_no_reference (sameReference.trans noReference), composes]

/-- Nested composition flattens.  Where an alternative only offers alternatives, or a branch
only merges branches, these may stand in its place: resolution gives the same node or fails
with the same chain. -/
theorem nested_composition_flattens (schema : Schema) (value : Json) (node : Node)
    {before inner after : List Node} (offered : inner ≠ []) :
    (∀ nested : Node, nested.OffersOnly inner →
      node.alternatives = before ++ nested :: after →
        schema.effective value (node.withAlternatives (before ++ inner ++ after)) =
          schema.effective value node) ∧
      (node.allOf = before ++ Node.mergingOnly inner :: after →
        schema.effective value (node.withBranches (before ++ inner ++ after)) =
          schema.effective value node) := by
  constructor
  · intro nested offers contains
    exact effectiveFrom_withAlternatives offered offers contains
  · intro contains
    exact effectiveFrom_withBranches offered contains

/-- The node of names. -/
def nameNode : Node :=
  { Node.any with required := ["name"] }

/-- The node of objects. -/
def objectNode : Node :=
  { Node.any with types := [.object] }

/-- A choice of names and addresses. -/
def choiceNode : Node :=
  { Node.any with anyOf := [nameNode, addressNode] }

/-- Names, addresses and anything else, with names and addresses in a choice of their own. -/
def nestedPlaceNode : Node :=
  { Node.any with
    allOf := [Node.mergingOnly [addressNode, objectNode]]
    oneOf := [nameNode, choiceNode, Node.any] }

theorem nested_composition_flattens_on_places :
    let value := Json.object [("url", .null)]
    ∃ found, placeSchema.effective value nestedPlaceNode = .ok (some found) ∧
      placeSchema.effective value (nestedPlaceNode.withAlternatives
        [nameNode, nameNode, addressNode, Node.any]) = .ok (some found) ∧
      placeSchema.effective value (nestedPlaceNode.withBranches
        [addressNode, objectNode]) = .ok (some found) := by
  intro value
  have flatAlternatives : placeSchema.effective value
      (nestedPlaceNode.withAlternatives ([nameNode] ++ [nameNode, addressNode] ++ [Node.any])) =
        placeSchema.effective value nestedPlaceNode :=
    (nested_composition_flattens _ _ _ (List.cons_ne_nil _ _)).1 choiceNode .anyOf rfl
  have flatBranches : placeSchema.effective value
      (nestedPlaceNode.withBranches ([] ++ [addressNode, objectNode] ++ [])) =
        placeSchema.effective value nestedPlaceNode :=
    (nested_composition_flattens _ _ _ (List.cons_ne_nil _ _)).2 rfl
  have branch : placeSchema.EffectiveStep value []
      (Node.mergingOnly [addressNode, objectNode]) (.ok (some _)) [] :=
    .merged (.arrived rfl) (.merged (List.cons_ne_nil _ _)
      (.overlaid (.cut (.merged (.arrived rfl) (.plain rfl) (.single rfl)))
        (.overlaid (.cut (.merged (.arrived rfl) (.plain rfl) (.single rfl))) .done)))
      (.single rfl)
  have address : placeSchema.Selects value [] 0 choiceNode.alternatives
      (.ok (some (1, _))) [] :=
    .refused (.arrived rfl) (.refused rfl) (.admitted (.arrived rfl) (.single rfl rfl))
  have choice : placeSchema.Admits value [] choiceNode (.ok true) [] :=
    Admits.union rfl rfl address
  have selects : placeSchema.Selects value [] 0 nestedPlaceNode.alternatives
      (.ok (some (1, choiceNode))) [] :=
    .refused (.arrived rfl) (.refused rfl) (.admitted (.arrived rfl) choice)
  have entered : placeSchema.EffectiveStep value [] choiceNode (.ok (some _)) [] :=
    .merged (.arrived rfl) (.plain rfl) (.chosen rfl address rfl
      (.cut (.merged (.arrived rfl) (.plain rfl) (.single rfl))))
  have merges : placeSchema.Merges value [] nestedPlaceNode (.ok _) [] :=
    .merged (List.cons_ne_nil _ _) (.overlaid (.cut branch) .done)
  have step : placeSchema.EffectiveStep value [] nestedPlaceNode (.ok _) [] :=
    .merged (.arrived rfl) merges (.chosen rfl selects rfl (.cut entered))
  have succeeds : placeSchema.effective value nestedPlaceNode = .ok (some _) := step.spec.2
  exact ⟨_, succeeds, flatAlternatives.trans succeeds, flatBranches.trans succeeds⟩

end Schema

end Pipewright
