import Pipewright.Proofs.Canonical.KeyOrder

/-!
# Canonicalizing twice

Normalizing a normal document does not change it.  Canonicalizing walks the document
first, and a lifted scalar stands where other alternatives and other nodes for elements
apply than to the scalar: a reference cycle that the document did not come to can be one
that its canonical form comes to.  Without reference cycles, or where normalization
reorders keys only, canonicalizing again gives the canonical form back.
-/

namespace Pipewright

namespace Canonical

variable {schema : Schema} {wrapperFields : List String}

/-- A normal document is its own normal form. -/
theorem normalize_normalize {document : Json} (distinct : document.KeysDistinct) :
    normalize (schema.deriveRules wrapperFields)
        (normalize (schema.deriveRules wrapperFields) document) =
      normalize (schema.deriveRules wrapperFields) document := by
  have ends := schema.deriveRules_ends wrapperFields
  exact ((congruent_normalize ends document).normalize_eq ends distinct).symm

/-- A canonical document that can be walked is its own canonical form.  One that cannot be
walked has more than its keys in another order than the document it came from, and the
schema has a reference cycle. -/
theorem canonicalize_again {document canonical : Json} (distinct : document.KeysDistinct)
    (canonicalized : canonicalize document schema wrapperFields = .ok canonical) :
    canonicalize canonical schema wrapperFields = .ok canonical ∨
      ∃ cycle, canonicalize canonical schema wrapperFields = .error cycle ∧
        checkDocument canonical schema = .error cycle ∧
        ¬ schema.Acyclic ∧ ¬ document.Reordered canonical := by
  obtain ⟨checked, normal⟩ := checked_of_canonicalize canonicalized
  cases again : checkDocument canonical schema with
  | ok _ =>
      refine .inl ?_
      rw [canonicalize_of_checked again, normal, normalize_normalize distinct]
  | error cycle =>
      refine .inr ⟨cycle, ?_, rfl, ?_, ?_⟩
      · rw [canonicalize_eq, again]
        rfl
      · intro acyclic
        rw [acyclic.checkDocument_ok canonical] at again
        cases again
      · intro reordered
        rw [(Walk.checkDocument_reordered reordered distinct).mpr checked] at again
        cases again

theorem canonicalize_again_on_triggers :
    let lone : Json := .object [("on", .string "push")]
    let listed : Json := .object [("on", .array [.string "push"])]
    lone.KeysDistinct ∧ canonicalize lone triggerSchema ["name"] = .ok listed ∧
      canonicalize listed triggerSchema ["name"] = .ok listed := by
  intro lone listed
  have distinct : lone.KeysDistinct := by simp [lone, Json.KeysDistinct, Json.MemberKeysDistinct]
  have acyclic : triggerSchema.Acyclic := Schema.acyclic_of_lone_root rfl rfl rfl rfl
  have promotes : triggerSchema.deriveRules ["name"] = ⟨[("on", .promoteToArray)]⟩ := by
    decide +kernel
  have plain : tidy "push" = "push" := by decide +kernel
  have normal : normalize (triggerSchema.deriveRules ["name"]) lone = listed := by
    rw [promotes, normalize_object]
    simp only [List.map_cons, List.map_nil, normalMember, normalize, plain]
    rw [settle_of_liftable rfl, lift_of_unlinked rfl]
    rfl
  have canonicalized : canonicalize lone triggerSchema ["name"] = .ok listed := by
    rw [canonicalize_of_checked (acyclic.checkDocument_ok lone), normal]
  refine ⟨distinct, canonicalized, ?_⟩
  rcases canonicalize_again distinct canonicalized with same | ⟨_, _, _, cyclic, _⟩
  · exact same
  · exact absurd acyclic cyclic

/-! ## With a reference cycle -/

/-- A flag, a reference that loops, or a list of flags. -/
def retrySource : Json :=
  .object [
    ("definitions", .object [("loop", .object [("$ref", .string "#/definitions/loop")])]),
    ("properties", .object [("retry", .object [("oneOf", .array [
      .object [("type", .string "boolean")],
      .object [("$ref", .string "#/definitions/loop")],
      .object [("type", .string "array"), ("items", .object [("type", .string "boolean")])]])])])]

def retryLoop : Node := { Node.any with reference := some "#/definitions/loop" }

def retryFlag : Node := { Node.any with types := [.boolean] }

def retryList : Node := { Node.any with types := [.array], items := some retryFlag }

def retryNode : Node := { Node.any with oneOf := [retryFlag, retryLoop, retryList] }

def retrySchema : Schema :=
  ⟨Schema.identity retrySource, { Node.any with properties := [("retry", retryNode)] },
    [("#/definitions/loop", retryLoop)]⟩

theorem load_retrySource : Schema.load retrySource = .ok retrySchema := rfl

/-- A lone flag is admitted before the reference is tried. -/
theorem effective_retry_lone :
    retrySchema.effective (.boolean true) retryNode =
      .ok (some (retryNode.base.overlay retryFlag)) := by
  have flag : retrySchema.EffectiveStep (.boolean true) [] retryFlag (.ok (some retryFlag)) [] :=
    .merged (.arrived rfl) (.plain rfl) (.single rfl)
  have selects : retrySchema.Selects (.boolean true) [] 0 retryNode.alternatives
      (.ok (some (0, retryFlag))) [] :=
    .admitted (.arrived rfl) (.single rfl rfl)
  have chooses : retrySchema.Chooses (.boolean true) [] retryNode
      (.ok (some (retryNode.base.overlay retryFlag))) [] :=
    .chosen rfl selects rfl (.cut flag)
  have step : retrySchema.EffectiveStep (.boolean true) [] retryNode
      (.ok (some (retryNode.base.overlay retryFlag))) [] :=
    .merged (.arrived rfl) (.plain rfl) chooses
  exact step.spec.2

/-- A list of flags comes to the reference first. -/
theorem effective_retry_listed :
    retrySchema.effective (.array [.boolean true]) retryNode =
      .error ⟨["#/definitions/loop", "#/definitions/loop"]⟩ := by
  have loops : retrySchema.Follows [] retryLoop
      (.error ⟨["#/definitions/loop", "#/definitions/loop"]⟩)
      ["#/definitions/loop", "#/definitions/loop"] :=
    .entered rfl (by simp) rfl (.repeated rfl (by simp))
  have fails : retrySchema.EffectiveStep (.array [.boolean true]) [] retryNode
      (.error ⟨["#/definitions/loop", "#/definitions/loop"]⟩) [] :=
    .merged (.arrived rfl) (.plain rfl)
      (.unselected rfl (.refused (.arrived rfl) (.refused rfl) (.unfollowed loops)))
  exact fails.spec.2

/-- A document with nothing but a `retry` can be walked where the `retry` can. -/
theorem checkDocument_retry (value : Json) :
    checkDocument (.object [("retry", value)]) retrySchema =
      (retrySchema.effective value retryNode).bind fun applied =>
        (Walk.branches retrySchema ⟨[.key "retry"], applied, shapeOf applied value, value,
          some (.object [("retry", value)]), some (.key "retry")⟩ value).check := by
  have root : retrySchema.effective (.object [("retry", value)]) retrySchema.root =
      .ok (some retrySchema.root) := Schema.effective_of_plain rfl rfl rfl
  have declared : retrySchema.root.propertyNode? "retry" = some retryNode := rfl
  rw [Walk.checkDocument_eq, Walk.documentOutline, Walk.context, root]
  simp only [Except.map, Walk.outline, Walk.branches, Walk.memberBranches, Walk.memberContext,
    Walk.context, declared, Walk.Outline.check, shapeOf]
  cases retrySchema.effective value retryNode with
  | error cycle => rfl
  | ok applied =>
      simp only [Except.bind, Walk.Branches.check, Walk.Outline.check, List.nil_append]
      split
      · next failed => exact failed.symm
      · next passed => exact passed.symm

/-- The document can be canonicalized, and its canonical form cannot. -/
theorem canonicalize_again_fails_on_retry :
    let lone : Json := .object [("retry", .boolean true)]
    let listed : Json := .object [("retry", .array [.boolean true])]
    Schema.load retrySource = .ok retrySchema ∧ lone.KeysDistinct ∧
      canonicalize lone retrySchema standardWrapperFields = .ok listed ∧
      canonicalize listed retrySchema standardWrapperFields =
        .error ⟨["#/definitions/loop", "#/definitions/loop"]⟩ := by
  intro lone listed
  have distinct : lone.KeysDistinct := by simp [lone, Json.KeysDistinct, Json.MemberKeysDistinct]
  have promotes : retrySchema.deriveRules standardWrapperFields =
      ⟨[("retry", .promoteToArray)]⟩ := by decide +kernel
  have normal : normalize (retrySchema.deriveRules standardWrapperFields) lone = listed := by
    rw [promotes, normalize_object]
    simp only [List.map_cons, List.map_nil, normalMember, normalize]
    rw [settle_of_liftable rfl, lift_of_unlinked rfl]
    rfl
  have checked : checkDocument lone retrySchema = .ok () := by
    rw [checkDocument_retry, effective_retry_lone]
    rfl
  have failed : checkDocument listed retrySchema =
      .error ⟨["#/definitions/loop", "#/definitions/loop"]⟩ := by
    rw [checkDocument_retry, effective_retry_listed]
    rfl
  refine ⟨load_retrySource, distinct, ?_, ?_⟩
  · rw [canonicalize_of_checked checked, normal]
  · rw [canonicalize_eq, failed]
    rfl

end Canonical

end Pipewright
