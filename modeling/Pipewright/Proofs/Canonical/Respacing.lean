import Pipewright.Canonical.Normalize
import Pipewright.Proofs.Expression.Bodies

/-!
# Spaced documents

Generated source keeps the body of an expression without the blanks around it, and
the builder writes it with one blank on each side.  A document that differs in no
more than that has the same normal form.
-/

namespace Pipewright

namespace Canonical

open Expression

/-- A string with every expression body trimmed and one blank on each side of it. -/
def spaceExpressions (text : List Char) : List Char :=
  ((decompose text).mapBodies spaceBody).assemble

mutual

/-- The right document is the left one, except that expressions may be spaced in some
of its strings. -/
inductive Respaced : Json → Json → Prop where
  | null : Respaced .null .null
  | boolean (value : Bool) : Respaced (.boolean value) (.boolean value)
  | number (value : Number) : Respaced (.number value) (.number value)
  | string (text : String) : Respaced (.string text) (.string text)
  | spaced (text : String) :
      Respaced (.string text) (.string (String.ofList (spaceExpressions text.toList)))
  | array {items items' : List Json} :
      RespacedItems items items' → Respaced (.array items) (.array items')
  | object {members members' : Members} :
      RespacedMembers members members' → Respaced (.object members) (.object members')

/-- `Respaced` element by element. -/
inductive RespacedItems : List Json → List Json → Prop where
  | nil : RespacedItems [] []
  | cons {item item' : Json} {items items' : List Json} :
      Respaced item item' → RespacedItems items items' →
      RespacedItems (item :: items) (item' :: items')

/-- `Respaced` member by member, under the same keys in the same order. -/
inductive RespacedMembers : Members → Members → Prop where
  | nil : RespacedMembers [] []
  | cons {key : String} {value value' : Json} {members members' : Members} :
      Respaced value value' → RespacedMembers members members' →
      RespacedMembers ((key, value) :: members) ((key, value') :: members')

end

mutual

theorem Respaced.refl (document : Json) : Respaced document document := by
  cases document with
  | null => exact .null
  | boolean value => exact .boolean value
  | number value => exact .number value
  | string text => exact .string text
  | array items => exact .array (RespacedItems.refl items)
  | object members => exact .object (RespacedMembers.refl members)

theorem RespacedItems.refl (items : List Json) : RespacedItems items items := by
  cases items with
  | nil => exact .nil
  | cons item items => exact .cons (Respaced.refl item) (RespacedItems.refl items)

theorem RespacedMembers.refl (members : Members) : RespacedMembers members members := by
  match members with
  | [] => exact .nil
  | (_, value) :: members => exact .cons (Respaced.refl value) (RespacedMembers.refl members)

end

theorem tidy_spaceExpressions (text : String) :
    tidy (String.ofList (spaceExpressions text.toList)) = tidy text := by
  unfold tidy
  rw [String.toList_ofList, spaceExpressions,
    tidyExpressions_assemble_mapBodies (fun _ => isBody_spaceBody) blankTokens_spaceBody]

/-- A string without expressions stays as it is. -/
theorem spaceExpressions_of_no_holes {text : List Char} (noHoles : (decompose text).holes = []) :
    spaceExpressions text = text := by
  have whole := assemble_decompose text
  rw [spaceExpressions, Decomposition.mapBodies, noHoles, List.map_nil, ← noHoles]
  exact whole

theorem Respaced.isLiftable_eq {document document' : Json}
    (respaced : Respaced document document') : isLiftable document' = isLiftable document := by
  cases respaced <;> rfl

variable {table : RuleTable}

mutual

/-- Spacing expressions does not change the normal form. -/
theorem Respaced.normalize_eq {document document' : Json} :
    Respaced document document' → normalize table document' = normalize table document
  | .null => rfl
  | .boolean _ => rfl
  | .number _ => rfl
  | .string _ => rfl
  | .spaced text => by rw [normalize, normalize, tidy_spaceExpressions]
  | .array items => by rw [normalize, normalize, items.normalizeItems_eq]
  | .object members => by rw [normalize, normalize, members.normalizeMembers_eq]

theorem RespacedItems.normalizeItems_eq {items items' : List Json} :
    RespacedItems items items' → normalizeItems table items' = normalizeItems table items
  | .nil => rfl
  | .cons item items => by
      rw [normalizeItems, normalizeItems, item.normalize_eq, items.normalizeItems_eq]

theorem RespacedMembers.normalizeMembers_eq {members members' : Members} :
    RespacedMembers members members' →
      normalizeMembers table members' = normalizeMembers table members
  | .nil => rfl
  | .cons value members => by
      rw [normalizeMembers, normalizeMembers, value.normalize_eq,
        members.normalizeMembers_eq, value.isLiftable_eq]

end

end Canonical

end Pipewright
