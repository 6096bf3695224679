import Pipewright.Json.Basic

/-!
# Distinct keys

The objects of a document list every key once.  The tree type itself admits
repeated keys, so statements about reordering name the condition.
-/

namespace Pipewright

namespace Json

mutual

/-- Every object of the document lists each key once. -/
def KeysDistinct : Json → Prop
  | .array items => ItemKeysDistinct items
  | .object members => (members.map (·.1)).Nodup ∧ MemberKeysDistinct members
  | .null => True
  | .boolean _ => True
  | .number _ => True
  | .string _ => True

/-- `KeysDistinct` for each element of an array. -/
def ItemKeysDistinct : List Json → Prop
  | [] => True
  | item :: rest => item.KeysDistinct ∧ ItemKeysDistinct rest

/-- `KeysDistinct` for the value of each member of an object. -/
def MemberKeysDistinct : Members → Prop
  | [] => True
  | (_, value) :: rest => value.KeysDistinct ∧ MemberKeysDistinct rest

end

theorem itemKeysDistinct_iff {items : List Json} :
    ItemKeysDistinct items ↔ ∀ item ∈ items, item.KeysDistinct := by
  induction items with
  | nil => simp [ItemKeysDistinct]
  | cons item rest inner => simp [ItemKeysDistinct, inner]

theorem memberKeysDistinct_iff {members : Members} :
    MemberKeysDistinct members ↔ ∀ member ∈ members, member.2.KeysDistinct := by
  induction members with
  | nil => simp [MemberKeysDistinct]
  | cons member rest inner => simp [MemberKeysDistinct, inner]

@[simp] theorem keysDistinct_array {items : List Json} :
    (Json.array items).KeysDistinct ↔ ∀ item ∈ items, item.KeysDistinct :=
  itemKeysDistinct_iff

@[simp] theorem keysDistinct_object {members : Members} :
    (Json.object members).KeysDistinct ↔
      (members.map (·.1)).Nodup ∧ ∀ member ∈ members, member.2.KeysDistinct := by
  rw [KeysDistinct, memberKeysDistinct_iff]

theorem keysDistinct_of_isScalar {value : Json} (scalar : value.isScalar = true) :
    value.KeysDistinct := by
  cases value with
  | array => cases scalar
  | object => cases scalar
  | _ => trivial

end Json

/-! ## Tables -/

section

variable {κ α : Type} [BEq κ] [LawfulBEq κ] {entries : List (κ × α)} {key : κ} {value : α}

theorem lookup_of_mem (nodup : (entries.map (·.1)).Nodup) (mem : (key, value) ∈ entries) :
    entries.lookup key = some value := by
  induction entries with
  | nil => cases mem
  | cons entry rest inner =>
      obtain ⟨first, content⟩ := entry
      obtain ⟨new, nodupRest⟩ := List.nodup_cons.mp nodup
      rw [List.lookup_cons]
      rcases List.mem_cons.mp mem with same | later
      · cases same
        simp
      · have listed : key ∈ rest.map (·.1) := List.mem_map_of_mem later
        have different : (key == first) = false := by
          apply beq_false_of_ne
          rintro rfl
          exact new listed
        rw [different]
        exact inner nodupRest later

theorem mem_of_lookup (found : entries.lookup key = some value) : (key, value) ∈ entries := by
  obtain ⟨front, back, split, _⟩ := List.lookup_eq_some_iff.mp found
  rw [split]
  exact List.mem_append_right front List.mem_cons_self

end

/-- A new key goes to the end. -/
theorem putEntry_of_new {α : Type} {entries : List (String × α)} {key : String}
    (new : key ∉ entries.map (·.1)) (value : α) :
    putEntry entries key value = entries ++ [(key, value)] := by
  induction entries with
  | nil => rfl
  | cons entry rest inner =>
      rw [List.map_cons, List.mem_cons, not_or] at new
      rw [putEntry, if_neg (Ne.symm new.1), inner new.2]
      rfl

end Pipewright
