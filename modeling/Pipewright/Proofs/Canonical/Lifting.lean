import Pipewright.Canonical.Normalize
import Pipewright.Proofs.Rules.Links

/-!
# Lifting scalars

Where the links of a table end, lifting never comes back to a property that it
passed.  It then is what the rules say step by step: an array of the scalar, an
object with the scalar lifted under the rule's field, or the scalar itself.
-/

namespace Pipewright

namespace Canonical

/-- A value inside objects with one member each, the first field outermost. -/
def nest (fields : List String) (core : Json) : Json :=
  fields.foldr (fun field inner => .object [(field, inner)]) core

/-- What a scalar becomes under a property without a link. -/
def promoted (table : RuleTable) (property : String) (scalar : Json) : Json :=
  match table.get? property with
  | some .promoteToArray => .array [scalar]
  | _ => scalar

/-- One application of a rule: only scalars are lifted. -/
def applyRule (rule : Rule) (value : Json) : Json :=
  if isLiftable value then
    match rule with
    | .promoteToArray => .array [value]
    | .wrapInObject field => .object [(field, value)]
  else value

/-- The value of a member after one application of the rule of its key. -/
def liftOnce (table : RuleTable) (key : String) (value : Json) : Json :=
  match table.get? key with
  | some rule => applyRule rule value
  | none => value

theorem isScalar_of_isLiftable {value : Json} (liftable : isLiftable value = true) :
    value.isScalar = true := by
  cases value with
  | array => cases liftable
  | object => cases liftable
  | _ => rfl

variable {table : RuleTable}

theorem liftFrom_of_unlinked {visited : List String} {property : String} {scalar : Json}
    (unlinked : table.wrapField? property = none) :
    liftFrom table visited property scalar = promoted table property scalar := by
  rw [liftFrom]
  split
  · next rule => simp [promoted, rule]
  · next notPromoted =>
      split
      · next field linked =>
          rw [unlinked] at linked
          cases linked
      · simp [promoted]

theorem liftFrom_of_linked {visited : List String} {property field : String} {scalar : Json}
    (linked : table.wrapField? property = some field) (fresh : field ∉ visited) :
    liftFrom table visited property scalar =
      .object [(field, liftFrom table (visited ++ [field]) field scalar)] := by
  have rule := RuleTable.wrapField?_eq_some_iff.mp linked
  rw [liftFrom]
  simp only [rule]
  split
  · next other linked' =>
      rw [linked] at linked'
      cases linked'
      simp [fresh]
  · next unlinked =>
      rw [linked] at unlinked
      cases unlinked

/-- Lifting follows a path whose fields were not visited to its end. -/
theorem liftFrom_of_path {visited : List String} {property last : String}
    {fields : List String} (scalar : Json)
    (path : table.LinkPath property fields last) (unlinked : table.wrapField? last = none)
    (distinct : fields.Nodup) (fresh : ∀ field ∈ fields, field ∉ visited) :
    liftFrom table visited property scalar = nest fields (promoted table last scalar) := by
  induction path generalizing visited with
  | here property => exact liftFrom_of_unlinked unlinked
  | @step property field last fields linked rest inner =>
      obtain ⟨absent, distinctRest⟩ := List.nodup_cons.mp distinct
      have restFresh : ∀ other ∈ fields, other ∉ visited ++ [field] := by
        intro other member seen
        rcases List.mem_append.mp seen with before | now
        · exact fresh other (List.mem_cons_of_mem _ member) before
        · rw [List.mem_singleton] at now
          exact absent (now ▸ member)
      rw [liftFrom_of_linked linked (fresh field List.mem_cons_self),
        inner unlinked distinctRest restFresh]
      rfl

theorem lift_of_path {property last : String} {fields : List String} (scalar : Json)
    (path : table.LinkPath property fields last) (unlinked : table.wrapField? last = none) :
    lift table property scalar = nest fields (promoted table last scalar) := by
  obtain ⟨absent, distinct⟩ := List.nodup_cons.mp (path.nodup unlinked)
  apply liftFrom_of_path scalar path unlinked distinct
  intro field member seen
  rw [List.mem_singleton] at seen
  exact absent (seen ▸ member)

/-! ## Lifting rule by rule -/

theorem lift_of_unlinked {property : String} {scalar : Json}
    (unlinked : table.wrapField? property = none) :
    lift table property scalar = promoted table property scalar :=
  liftFrom_of_unlinked unlinked

theorem lift_of_linked {property field : String} (scalar : Json)
    (linked : table.wrapField? property = some field) (ends : table.Ends field) :
    lift table property scalar = .object [(field, lift table field scalar)] := by
  obtain ⟨fields, last, path, unlinked⟩ := ends.exists_path
  rw [lift_of_path scalar path unlinked, lift_of_path scalar (.step linked path) unlinked]
  rfl

/-- A lifted scalar has at most as many objects around it as the table has
wrapping rules, and at most one array. -/
theorem lift_nests {property : String} (scalar : Json) (ends : table.Ends property) :
    ∃ fields core, lift table property scalar = nest fields core ∧
      fields.length ≤ table.wrapFields.length ∧
      (core = scalar ∨ core = .array [scalar]) := by
  obtain ⟨fields, last, path, unlinked⟩ := ends.exists_path
  refine ⟨fields, promoted table last scalar, lift_of_path scalar path unlinked,
    path.length_le unlinked, ?_⟩
  unfold promoted
  split
  · exact .inr rfl
  · exact .inl rfl

theorem applyRule_promoteToArray {value : Json} (liftable : isLiftable value = true) :
    applyRule .promoteToArray value = .array [value] := by
  rw [applyRule, if_pos liftable]

theorem applyRule_wrapInObject {value : Json} (field : String)
    (liftable : isLiftable value = true) :
    applyRule (.wrapInObject field) value = .object [(field, value)] := by
  rw [applyRule, if_pos liftable]

theorem liftOnce_of_not_liftable {key : String} {value : Json}
    (collection : isLiftable value = false) : liftOnce table key value = value := by
  unfold liftOnce applyRule
  split
  · simp [collection]
  · rfl

theorem liftOnce_of_linked {key field : String} {value : Json}
    (liftable : isLiftable value = true) (linked : table.wrapField? key = some field) :
    liftOnce table key value = .object [(field, value)] := by
  simp [liftOnce, RuleTable.wrapField?_eq_some_iff.mp linked, applyRule, liftable]

theorem liftOnce_of_unlinked {key : String} {value : Json}
    (liftable : isLiftable value = true) (unlinked : table.wrapField? key = none) :
    liftOnce table key value = promoted table key value := by
  unfold liftOnce promoted applyRule
  cases found : table.get? key with
  | none => rfl
  | some rule =>
      cases rule with
      | promoteToArray => simp [liftable]
      | wrapInObject field =>
          rw [RuleTable.wrapField?_eq_some_iff.mpr found] at unlinked
          cases unlinked

end Canonical

end Pipewright
