import Pipewright.Proofs.Canonical.Congruence
import Pipewright.Proofs.Json.Keys

/-!
# What normalization identifies

Two documents have the same normal form exactly when they are congruent.  Each
generator of the congruence keeps the normal form, and every document is congruent
to its normal form.
-/

namespace Pipewright

namespace Canonical

open Expression

variable {table : RuleTable}

/-- The normal value of a member, given the normal form of its value. -/
def settle (table : RuleTable) (key : String) (normal : Json) : Json :=
  if isLiftable normal then lift table key normal else normal

theorem settle_of_liftable {key : String} {normal : Json} (liftable : isLiftable normal = true) :
    settle table key normal = lift table key normal :=
  if_pos liftable

theorem settle_of_collection {key : String} {normal : Json}
    (collection : isLiftable normal = false) : settle table key normal = normal := by
  rw [settle, collection]
  rfl

/-- The normal form of a member. -/
def normalMember (table : RuleTable) (member : String × Json) : String × Json :=
  (member.1, settle table member.1 (normalize table member.2))

theorem normalizeMembers_eq_map (members : Members) :
    normalizeMembers table members = members.map (normalMember table) := by
  induction members with
  | nil => rfl
  | cons member members inner =>
      obtain ⟨key, value⟩ := member
      simp only [normalizeMembers, List.map_cons, inner, normalMember, settle,
        isLiftable_normalize]

theorem normalizeItems_eq_map (items : List Json) :
    normalizeItems table items = items.map (normalize table) := by
  induction items with
  | nil => rfl
  | cons item items inner => rw [normalizeItems, inner, List.map_cons]

theorem normalize_object (members : Members) :
    normalize table (.object members) =
      .object (sortMembers (members.map (normalMember table))) := by
  rw [normalize, normalizeMembers_eq_map]

theorem normalize_array (items : List Json) :
    normalize table (.array items) = .array (items.map (normalize table)) := by
  rw [normalize, normalizeItems_eq_map]

theorem map_fst_normalMember (members : Members) :
    (members.map (normalMember table)).map (·.1) = members.map (·.1) := by
  rw [List.map_map]
  rfl

/-- Applying a rule to a scalar does not change its normal form. -/
theorem settle_applyRule {key : String} {rule : Rule} {scalar : Json}
    (found : table.get? key = some rule) (liftable : isLiftable scalar = true)
    (ends : ∀ property, table.Ends property) :
    settle table key (normalize table (applyRule rule scalar)) =
      settle table key (normalize table scalar) := by
  have normalLiftable := (@isLiftable_normalize table scalar).trans liftable
  rw [settle_of_liftable normalLiftable]
  cases rule with
  | promoteToArray =>
      have unlinked : table.wrapField? key = none := by
        simp [RuleTable.wrapField?, found]
      rw [applyRule_promoteToArray liftable, lift_of_unlinked unlinked, promoted, found,
        normalize_array]
      rfl
  | wrapInObject field =>
      rw [applyRule_wrapInObject field liftable, normalize_object,
        lift_of_linked _ (RuleTable.wrapField?_eq_some_iff.mpr found) (ends field),
        settle_of_collection rfl]
      simp [normalMember, settle_of_liftable normalLiftable, sortMembers, insertMember]

/-- Strings that differ in the blanks of one expression have one tidy form. -/
theorem tidy_eq_of_spacingDiffers {text text' : String}
    (differs : SpacingDiffers text.toList text'.toList) : tidy text = tidy text' := by
  obtain ⟨lead, front, body, body', after, back, cut, cut', sameTokens⟩ := differs
  unfold tidy
  rw [tidyExpressions_eq, tidyExpressions_eq, cut, cut']
  simp [Decomposition.mapBodies, tidyBody_eq_iff.mpr sameTokens]

/-! ## Congruent documents have one normal form -/

/-- A congruence step neither repeats a key nor removes a repetition. -/
theorem Congruent.keysDistinct_iff {left right : Json} (congruent : Congruent table left right) :
    left.KeysDistinct ↔ right.KeysDistinct := by
  induction congruent with
  | refl => exact Iff.rfl
  | symm _ inner => exact inner.symm
  | trans _ _ first second => exact first.trans second
  | element before behind _ inner =>
      simp only [Json.keysDistinct_array, List.mem_append, List.mem_cons]
      constructor
      · intro distinct item place
        rcases place with early | same | late
        · exact distinct item (.inl early)
        · exact same ▸ inner.mp (distinct _ (.inr (.inl rfl)))
        · exact distinct item (.inr (.inr late))
      · intro distinct item place
        rcases place with early | same | late
        · exact distinct item (.inl early)
        · exact same ▸ inner.mpr (distinct _ (.inr (.inl rfl)))
        · exact distinct item (.inr (.inr late))
  | member before behind key _ inner =>
      simp only [Json.keysDistinct_object, List.forall_mem_append, List.forall_mem_cons,
        List.map_append, List.map_cons, inner]
  | reorder permutation =>
      simp only [Json.keysDistinct_object, (permutation.map (·.1)).nodup_iff,
        permutation.mem_iff]
  | respace => exact Iff.rfl
  | @lift before behind key rule scalar _ liftable =>
      have plain := Json.keysDistinct_of_isScalar (isScalar_of_isLiftable liftable)
      have lifted : (applyRule rule scalar).KeysDistinct := by
        cases rule with
        | promoteToArray => simp [applyRule_promoteToArray liftable, plain]
        | wrapInObject field => simp [applyRule_wrapInObject field liftable, plain]
      simp only [Json.keysDistinct_object, List.forall_mem_append, List.forall_mem_cons,
        List.map_append, List.map_cons, plain, lifted]

/-- Congruent documents with distinct keys have the same normal form. -/
theorem Congruent.normalize_eq {left right : Json} (congruent : Congruent table left right)
    (ends : ∀ property, table.Ends property) (distinct : left.KeysDistinct) :
    normalize table left = normalize table right := by
  induction congruent with
  | refl => rfl
  | symm backward inner => exact (inner (backward.keysDistinct_iff.mpr distinct)).symm
  | trans first _ inner inner' =>
      exact (inner distinct).trans (inner' (first.keysDistinct_iff.mp distinct))
  | @element before behind item item' _ inner =>
      have itemDistinct : item.KeysDistinct :=
        Json.keysDistinct_array.mp distinct item (by simp)
      simp only [normalize_array, List.map_append, List.map_cons, inner itemDistinct]
  | @member before behind key value value' _ inner =>
      have valueDistinct : value.KeysDistinct :=
        (Json.keysDistinct_object.mp distinct).2 (key, value) (by simp)
      simp only [normalize_object, List.map_append, List.map_cons, normalMember,
        inner valueDistinct]
  | @reorder members members' permutation =>
      have normalDistinct : ((members.map (normalMember table)).map (·.1)).Nodup := by
        rw [map_fst_normalMember]
        exact (Json.keysDistinct_object.mp distinct).1
      rw [normalize_object, normalize_object,
        sortMembers_eq_of_perm (permutation.map _) normalDistinct]
  | respace differs => rw [normalize, normalize, tidy_eq_of_spacingDiffers differs]
  | @lift before behind key rule scalar found liftable =>
      simp only [normalize_object, List.map_append, List.map_cons, normalMember,
        settle_applyRule found liftable ends]

/-! ## The congruence is what normalization identifies -/

/-- Under the rules derived from a schema, two documents have the same normal form
exactly when they are related by the smallest congruence that reorders keys, changes
blanks inside expressions and lifts scalars under properties with a rule. -/
theorem normalize_eq_iff_congruent (schema : Schema) (wrapperFields : List String)
    {left : Json} (distinct : left.KeysDistinct) (right : Json) :
    normalize (schema.deriveRules wrapperFields) left =
        normalize (schema.deriveRules wrapperFields) right ↔
      Congruent (schema.deriveRules wrapperFields) left right := by
  have ends := schema.deriveRules_ends wrapperFields
  constructor
  · intro same
    have forward := congruent_normalize ends left
    rw [same] at forward
    exact .trans forward (.symm (congruent_normalize ends right))
  · intro congruent
    exact congruent.normalize_eq ends distinct

/-- A schema in which `on` holds a name or a list of names. -/
def triggerSchema : Schema :=
  let name : Node := { Node.any with types := [.string] }
  let names : Node := { Node.any with types := [.array], items := some name }
  ⟨"", { Node.any with properties := [("on", { Node.any with oneOf := [name, names] })] }, []⟩

theorem normalize_eq_of_lone_trigger :
    (Json.object [("on", .string "push")]).KeysDistinct ∧
      normalize (triggerSchema.deriveRules ["name"]) (.object [("on", .string "push")]) =
        normalize (triggerSchema.deriveRules ["name"])
          (.object [("on", .array [.string "push"])]) := by
  have distinct : (Json.object [("on", .string "push")]).KeysDistinct := by
    simp only [Json.keysDistinct_object]
    simp [Json.KeysDistinct]
  have promoted : (triggerSchema.deriveRules ["name"]).get? "on" = some .promoteToArray := by
    decide +kernel
  exact ⟨distinct, (normalize_eq_iff_congruent triggerSchema ["name"] distinct _).mpr
    (.lift [] [] promoted rfl)⟩

end Canonical

end Pipewright
