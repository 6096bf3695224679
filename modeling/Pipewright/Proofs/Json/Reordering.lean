import Pipewright.Proofs.Json.Keys

/-!
# Reordered documents

Two documents are reorderings of each other when they differ in the order of keys only, at
any depth.  Looking up a key and comparing with another document do not tell them apart.
-/

namespace Pipewright

namespace Json

mutual

/-- The right document is the left one, except that the keys of its objects may come in
another order. -/
inductive Reordered : Json → Json → Prop where
  | null : Reordered .null .null
  | boolean (value : Bool) : Reordered (.boolean value) (.boolean value)
  | number (value : Number) : Reordered (.number value) (.number value)
  | string (text : String) : Reordered (.string text) (.string text)
  | array {items items' : List Json} :
      ReorderedItems items items' → Reordered (.array items) (.array items')
  | object {members between members' : Members} :
      ReorderedMembers members between → between.Perm members' →
      Reordered (.object members) (.object members')

/-- `Reordered` element by element. -/
inductive ReorderedItems : List Json → List Json → Prop where
  | nil : ReorderedItems [] []
  | cons {item item' : Json} {items items' : List Json} :
      Reordered item item' → ReorderedItems items items' →
      ReorderedItems (item :: items) (item' :: items')

/-- `Reordered` member by member, under the same keys in the same order. -/
inductive ReorderedMembers : Members → Members → Prop where
  | nil : ReorderedMembers [] []
  | cons {key : String} {value value' : Json} {members members' : Members} :
      Reordered value value' → ReorderedMembers members members' →
      ReorderedMembers ((key, value) :: members) ((key, value') :: members')

end

mutual

theorem Reordered.refl (document : Json) : Reordered document document := by
  cases document with
  | null => exact .null
  | boolean value => exact .boolean value
  | number value => exact .number value
  | string text => exact .string text
  | array items => exact .array (ReorderedItems.refl items)
  | object members => exact .object (ReorderedMembers.refl members) (List.Perm.refl _)

theorem ReorderedItems.refl (items : List Json) : ReorderedItems items items := by
  cases items with
  | nil => exact .nil
  | cons item items => exact .cons (Reordered.refl item) (ReorderedItems.refl items)

theorem ReorderedMembers.refl (members : Members) : ReorderedMembers members members := by
  match members with
  | [] => exact .nil
  | (_, value) :: members => exact .cons (Reordered.refl value) (ReorderedMembers.refl members)

end

theorem ReorderedMembers.keys_eq {members members' : Members}
    (reordered : ReorderedMembers members members') :
    members'.map (·.1) = members.map (·.1) := by
  induction members generalizing members' with
  | nil =>
      cases reordered
      rfl
  | cons member members inner =>
      cases reordered with
      | cons value rest => simp [inner rest]

/-- Where keys are distinct, their order does not matter for looking one up. -/
theorem lookup_eq_of_perm {members members' : Members} (permutation : members.Perm members')
    (nodup : (members.map (·.1)).Nodup) (key : String) :
    members'.lookup key = members.lookup key := by
  have nodup' : (members'.map (·.1)).Nodup := (permutation.map (·.1)).nodup_iff.mp nodup
  cases found : members.lookup key with
  | some value =>
      exact lookup_of_mem nodup' (permutation.mem_iff.mp (mem_of_lookup found))
  | none =>
      cases found' : members'.lookup key with
      | none => rfl
      | some value =>
          have back := lookup_of_mem nodup (permutation.mem_iff.mpr (mem_of_lookup found'))
          rw [found] at back
          cases back

/-! ## Equality of documents -/

/-- Does the member of this key equal a document? -/
def sameUnder (members : Members) (key : String) (candidate : Json) : Bool :=
  match members.lookup key with
  | some value => candidate.same value
  | none => false

theorem sameMembers_eq_all (candidates members : Members) :
    sameMembers candidates members =
      candidates.all fun candidate => sameUnder members candidate.1 candidate.2 := by
  induction candidates with
  | nil => rfl
  | cons candidate rest inner =>
      obtain ⟨key, value⟩ := candidate
      rw [sameMembers, inner]
      rfl

mutual

/-- No document is equal to one of them alone. -/
theorem Reordered.same_eq {value value' : Json} :
    Reordered value value' → value.KeysDistinct →
      ∀ candidate : Json, candidate.same value' = candidate.same value
  | .null, _, _ => rfl
  | .boolean _, _, _ => rfl
  | .number _, _, _ => rfl
  | .string _, _, _ => rfl
  | .array items, distinct, candidate => by
      cases candidate with
      | array candidates =>
          rw [Json.same, Json.same]
          exact items.sameItems_eq (keysDistinct_array.mp distinct) candidates
      | _ => rfl
  | @Reordered.object members between members' reordered permutation, distinct, candidate => by
      obtain ⟨nodup, values⟩ := keysDistinct_object.mp distinct
      rw [← reordered.keys_eq] at nodup
      cases candidate with
      | object candidates =>
          have sameLength : members'.length = members.length := by
            rw [← permutation.length_eq, ← List.length_map (·.1), reordered.keys_eq,
              List.length_map]
          rw [Json.same, Json.same, sameLength, sameMembers_eq_all, sameMembers_eq_all]
          congr 2
          funext entry
          rw [sameUnder, lookup_eq_of_perm permutation nodup]
          exact reordered.sameUnder_eq values entry.1 entry.2
      | _ => rfl

theorem ReorderedItems.sameItems_eq {items items' : List Json} :
    ReorderedItems items items' → (∀ item ∈ items, item.KeysDistinct) →
      ∀ candidates : List Json, sameItems candidates items' = sameItems candidates items
  | .nil, _, _ => rfl
  | .cons item items, distinct, candidates => by
      obtain ⟨first, rest⟩ := List.forall_mem_cons.mp distinct
      cases candidates with
      | nil => rfl
      | cons candidate candidates =>
          rw [sameItems, sameItems, item.same_eq first, items.sameItems_eq rest]

theorem ReorderedMembers.sameUnder_eq {members members' : Members} :
    ReorderedMembers members members' → (∀ member ∈ members, member.2.KeysDistinct) →
      ∀ (key : String) (candidate : Json),
        sameUnder members' key candidate = sameUnder members key candidate
  | .nil, _, _, _ => rfl
  | @ReorderedMembers.cons first _ _ _ _ value members, distinct, key, candidate => by
      obtain ⟨firstDistinct, restDistinct⟩ := List.forall_mem_cons.mp distinct
      have rest := members.sameUnder_eq restDistinct key candidate
      unfold sameUnder at rest ⊢
      rw [List.lookup_cons, List.lookup_cons]
      cases key == first with
      | true => exact value.same_eq firstDistinct candidate
      | false => exact rest

end

end Json

end Pipewright
