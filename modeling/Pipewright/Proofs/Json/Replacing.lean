import Pipewright.Proofs.Json.Keys
import Pipewright.Proofs.Json.Pointers

/-!
# Replaced values

A value of a document can be replaced by another one, at the place that a path leads to.  On
the way there, objects keep their keys and arrays their lengths, and beside the way all values
stay.
-/

namespace Pipewright

namespace Json

/-- The members with the value under one key changed. -/
def changeMember (name : String) (change : Json → Json) (members : Members) : Members :=
  members.map fun member => if member.1 = name then (member.1, change member.2) else member

/-- The elements with the one at a position changed. -/
def changeItem (position : Nat) (change : Json → Json) (items : List Json) : List Json :=
  items.mapIdx fun index item => if index = position then change item else item

/-- The document with another value at the end of the path, if the path leads to one. -/
def replaceAt : Json → List Step → Json → Json
  | _, [], replacement => replacement
  | .object members, .key name :: rest, replacement =>
      .object (changeMember name (fun value => value.replaceAt rest replacement) members)
  | .array items, .index position :: rest, replacement =>
      .array (changeItem position (fun item => item.replaceAt rest replacement) items)
  | document, _ :: _, _ => document

/-- Two objects that list the same keys in the same order, or two arrays. -/
inductive SameKeys : Json → Json → Prop where
  | array (items items' : List Json) : SameKeys (.array items) (.array items')
  | object {members members' : Members} :
      members'.map (·.1) = members.map (·.1) → SameKeys (.object members) (.object members')

theorem keys_changeMember (name : String) (change : Json → Json) (members : Members) :
    (changeMember name change members).map (·.1) = members.map (·.1) := by
  rw [changeMember, List.map_map]
  apply List.map_congr_left
  intro member _
  rw [Function.comp_apply]
  split <;> rfl

theorem keysDistinct_replaceAt {replacement : Json} (new : replacement.KeysDistinct)
    (location : List Step) {document : Json} (distinct : document.KeysDistinct) :
    (document.replaceAt location replacement).KeysDistinct := by
  induction location generalizing document with
  | nil => exact new
  | cons step rest inner =>
      match document, step with
      | .object members, .key name =>
          rw [keysDistinct_object] at distinct
          rw [replaceAt, keysDistinct_object, keys_changeMember]
          refine ⟨distinct.1, ?_⟩
          intro member among
          obtain ⟨old, listed, rfl⟩ := List.mem_map.mp among
          split
          · exact inner (distinct.2 old listed)
          · exact distinct.2 old listed
      | .array items, .index position =>
          rw [keysDistinct_array] at distinct
          rw [replaceAt, keysDistinct_array]
          intro item among
          obtain ⟨index, inBounds, rfl⟩ := List.mem_mapIdx.mp among
          split
          · exact inner (distinct _ (List.getElem_mem inBounds))
          · exact distinct _ (List.getElem_mem inBounds)
      | .object _, .index _ | .array _, .key _ => exact distinct
      | .null, other | .boolean _, other | .number _, other | .string _, other =>
          cases other <;> trivial

/-! ## Looking up what was replaced -/

theorem lookup_changeMember (name key : String) (change : Json → Json) (members : Members) :
    (changeMember name change members).lookup key =
      if key = name then (members.lookup key).map change else members.lookup key := by
  induction members with
  | nil => exact (ite_self none).symm
  | cons member rest inner =>
      obtain ⟨present, value⟩ := member
      have head : changeMember name change ((present, value) :: rest) =
          (present, if present = name then change value else value) ::
            changeMember name change rest := by
        rw [changeMember, List.map_cons]
        split <;> rfl
      rw [head, List.lookup_cons, List.lookup_cons, inner]
      cases found : key == present with
      | false => rfl
      | true =>
          rw [eq_of_beq found]
          exact apply_ite some _ _ _

theorem child?_replaceAt (document : Json) (step : Step) (rest : List Step)
    (replacement : Json) :
    (document.replaceAt (step :: rest) replacement).child? step =
      (document.child? step).map (·.replaceAt rest replacement) := by
  match document, step with
  | .object members, .key name =>
      rw [replaceAt, child?, lookup_changeMember, if_pos rfl]
      rfl
  | .array items, .index position =>
      rw [replaceAt, child?, changeItem, List.getElem?_mapIdx]
      simp only [if_true]
      rfl
  | .object _, .index _ | .array _, .key _ => rfl
  | .null, other | .boolean _, other | .number _, other | .string _, other => cases other <;> rfl

theorem child?_replaceAt_of_ne (document : Json) {step other : Step} (different : other ≠ step)
    (rest : List Step) (replacement : Json) :
    (document.replaceAt (step :: rest) replacement).child? other = document.child? other := by
  match document, step with
  | .object members, .key name =>
      cases other with
      | key name' =>
          rw [replaceAt, child?, lookup_changeMember, if_neg (different <| congrArg Step.key ·)]
          rfl
      | index => rfl
  | .array items, .index position =>
      cases other with
      | key => rfl
      | index position' =>
          rw [replaceAt, child?, changeItem, List.getElem?_mapIdx]
          have elsewhere : position' ≠ position := (different <| congrArg Step.index ·)
          simp only [if_neg elsewhere]
          exact Option.map_id_apply
  | .object _, .index _ | .array _, .key _ => rfl
  | .null, another | .boolean _, another | .number _, another | .string _, another =>
      cases another <;> rfl

/-- At the location, and below it, there is the replacement. -/
theorem valueAt?_replaceAt (document : Json) (location path : List Step) (replacement : Json) :
    (document.replaceAt location replacement).valueAt? (location ++ path) =
      (document.valueAt? location).bind fun _ => replacement.valueAt? path := by
  induction location generalizing document with
  | nil => rfl
  | cons step rest inner =>
      rw [List.cons_append, valueAt?, valueAt?, child?_replaceAt]
      cases document.child? step with
      | none => rfl
      | some value => exact inner value

/-- What is neither at the location nor above or below it stays. -/
theorem valueAt?_replaceAt_of_apart (document : Json) {location path : List Step}
    (notBelow : ¬location <+: path) (notAbove : ¬path <+: location) (replacement : Json) :
    (document.replaceAt location replacement).valueAt? path = document.valueAt? path := by
  induction location generalizing document path with
  | nil => exact absurd List.nil_prefix notBelow
  | cons step rest inner =>
      cases path with
      | nil => exact absurd List.nil_prefix notAbove
      | cons other further =>
          rw [valueAt?, valueAt?]
          by_cases same : other = step
          · subst same
            rw [List.prefix_cons_inj] at notBelow notAbove
            rw [child?_replaceAt]
            cases document.child? other with
            | none => rfl
            | some value => exact inner value notBelow notAbove
          · rw [child?_replaceAt_of_ne document same]

end Json

end Pipewright
