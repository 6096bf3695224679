import Mathlib.Data.List.Induction
import Pipewright.Proofs.Rules.Deriving
import Pipewright.Proofs.Schema.Subnodes

/-!
# The table of a scan

Deriving rules scans the property nodes of a schema in order and keeps, for each name, what
the first of its nodes that derives a rule derives.  The names stand in the table in the order
of these first nodes.
-/

namespace Pipewright

namespace RuleTable

/-- Add rules in order, each unless its property has one already. -/
def addAll (table : RuleTable) (entries : List (String × Rule)) : RuleTable :=
  entries.foldl (fun table entry => table.addIfAbsent entry.1 entry.2) table

variable {table : RuleTable}

theorem get?_isSome_iff {name : String} :
    (table.get? name).isSome = true ↔ name ∈ table.names := by
  rw [get?, List.lookup_isSome_iff, names, List.mem_map]
  simp only [beq_iff_eq, @eq_comm _ name]

theorem get?_addIfAbsent (property name : String) (rule : Rule) :
    (table.addIfAbsent property rule).get? name =
      (table.get? name).or ([(property, rule)].lookup name) := by
  unfold addIfAbsent
  split
  · next present =>
      by_cases same : name = property
      · subst same
        exact (Option.or_of_isSome present).symm
      · rw [List.lookup_cons, beq_false_of_ne same]
        exact (Option.or_none).symm
  · exact List.lookup_append

theorem names_addIfAbsent (property : String) (rule : Rule) :
    (table.addIfAbsent property rule).names =
      table.names ++ if property ∈ table.names then [] else [property] := by
  unfold addIfAbsent
  split
  · next present => rw [if_pos (get?_isSome_iff.mp present), List.append_nil]
  · next absent =>
      rw [if_neg fun listed => absent (get?_isSome_iff.mpr listed), names, List.map_append]
      rfl

/-- A new name goes behind the distinct names. -/
theorem eraseDups_concat (names : List String) (name : String) :
    (names ++ [name]).eraseDups = names.eraseDups ++ if name ∈ names then [] else [name] := by
  rw [List.eraseDups_append]
  by_cases listed : name ∈ names
  · rw [if_pos listed, List.removeAll, List.filter_cons_of_neg (by simpa using listed)]
    rfl
  · rw [if_neg listed, List.removeAll, List.filter_cons_of_pos (by simpa using listed)]
    rfl

theorem nodup_eraseDups (names : List String) : names.eraseDups.Nodup := by
  induction names using List.reverseRecOn with
  | nil => exact List.nodup_nil
  | append_singleton names name inner =>
      rw [eraseDups_concat]
      by_cases listed : name ∈ names
      · rw [if_pos listed, List.append_nil]
        exact inner
      · rw [if_neg listed, List.nodup_append]
        refine ⟨inner, List.pairwise_singleton _ name, ?_⟩
        intro other among added member
        rw [List.mem_singleton.mp member]
        rintro rfl
        exact listed (List.mem_eraseDups.mp among)

theorem get?_addAll (entries : List (String × Rule)) (name : String) :
    (empty.addAll entries).get? name = entries.lookup name := by
  induction entries using List.reverseRecOn with
  | nil => rfl
  | append_singleton entries entry inner =>
      rw [addAll, List.foldl_concat, ← addAll, get?_addIfAbsent, inner, List.lookup_append]

theorem names_addAll (entries : List (String × Rule)) :
    (empty.addAll entries).names = (entries.map (·.1)).eraseDups := by
  induction entries using List.reverseRecOn with
  | nil => rfl
  | append_singleton entries entry inner =>
      rw [addAll, List.foldl_concat, ← addAll, names_addIfAbsent, inner, List.map_append,
        List.map_singleton, eraseDups_concat]
      simp only [List.mem_eraseDups]

end RuleTable

namespace Schema

variable {schema : Schema} {fields : List String}

theorem ruleFor?_isSome_iff {property : Node} :
    (schema.ruleFor? fields property).isSome = true ↔
      ∃ rule, schema.Derives fields property rule := by
  simp only [Option.isSome_iff_exists, ruleFor?_eq_some_iff]

instance (property : Node) : Decidable (∃ rule, schema.Derives fields property rule) :=
  decidable_of_iff ((schema.ruleFor? fields property).isSome = true) ruleFor?_isSome_iff

/-- What the property nodes derive, under their names and in their order. -/
def derivations (schema : Schema) (fields : List String) : List (String × Rule) :=
  schema.propertyNodes.filterMap fun property =>
    (schema.ruleFor? fields property.2).map fun rule => (property.1, rule)

theorem scannedRules_eq :
    schema.scannedRules fields = RuleTable.empty.addAll (schema.derivations fields) := by
  rw [scannedRules, declaredProperties_eq, RuleTable.addAll, derivations, List.foldl_filterMap]
  congr 1
  funext table property
  cases schema.ruleFor? fields property.2 <;> rfl

/-- The property nodes that derive a rule. -/
def derivingNodes (schema : Schema) (fields : List String) : List (String × Node) :=
  schema.propertyNodes.filter fun property =>
    decide (∃ rule, schema.Derives fields property.2 rule)

theorem derivingNodes_eq : schema.derivingNodes fields =
    schema.propertyNodes.filter fun property => (schema.ruleFor? fields property.2).isSome :=
  List.filter_congr fun _ _ => Bool.eq_iff_iff.mpr
    (decide_eq_true_iff.trans ruleFor?_isSome_iff.symm)

theorem names_derivations :
    (schema.derivations fields).map (·.1) = (schema.derivingNodes fields).map (·.1) := by
  rw [derivingNodes_eq, derivations]
  induction schema.propertyNodes with
  | nil => rfl
  | cons property rest inner =>
      cases derived : schema.ruleFor? fields property.2 with
      | none =>
          rw [List.filterMap_cons_none (by rw [derived]; rfl),
            List.filter_cons_of_neg (by simp [derived]), inner]
      | some rule =>
          rw [List.filterMap_cons_some (b := (property.1, rule)) (by rw [derived]; rfl),
            List.filter_cons_of_pos (by simp [derived]), List.map_cons, List.map_cons, inner]

/-- The rule that the property node derives, if it has the name. -/
def namedRule? (schema : Schema) (fields : List String) (name : String)
    (property : String × Node) : Option Rule :=
  if property.1 = name then schema.ruleFor? fields property.2 else none

theorem lookup_derivations (name : String) :
    (schema.derivations fields).lookup name =
      schema.propertyNodes.findSome? (schema.namedRule? fields name) := by
  rw [List.lookup_eq_findSome?, derivations, ← List.head?_filterMap, List.filterMap_filterMap,
    List.head?_filterMap]
  congr 1
  funext property
  unfold namedRule?
  cases schema.ruleFor? fields property.2 with
  | none => simp
  | some rule => simp [@eq_comm _ name]

/-- The first node of the name that derives a rule decides. -/
theorem lookup_derivations_iff {name : String} {rule : Rule} :
    (schema.derivations fields).lookup name = some rule ↔
      ∃ front node back, schema.propertyNodes = front ++ (name, node) :: back ∧
        schema.Derives fields node rule ∧
        ∀ earlier, (name, earlier) ∈ front → ∀ other, ¬ schema.Derives fields earlier other := by
  rw [lookup_derivations, List.findSome?_eq_some_iff]
  constructor
  · rintro ⟨front, ⟨key, node⟩, back, split, found, others⟩
    obtain ⟨rfl, derived⟩ := Option.ite_none_right_eq_some.mp found
    refine ⟨front, node, back, split, ruleFor?_eq_some_iff.mp derived, ?_⟩
    intro earlier listed other derives
    have absent := others _ listed
    rw [namedRule?, if_pos rfl, ruleFor?_eq_some_iff.mpr derives] at absent
    cases absent
  · rintro ⟨front, node, back, split, derives, others⟩
    refine ⟨front, (name, node), back, split, ?_, ?_⟩
    · rw [namedRule?, if_pos rfl, ruleFor?_eq_some_iff.mpr derives]
    · rintro ⟨key, earlier⟩ listed
      refine Option.eq_none_iff_forall_ne_some.mpr ?_
      intro other found
      obtain ⟨rfl, derived⟩ := Option.ite_none_right_eq_some.mp found
      exact others earlier listed other (ruleFor?_eq_some_iff.mp derived)

/-- The table of a schema, before links are cut, holds for each name what the first of its
property nodes that derives a rule derives, in the order of these nodes. -/
theorem first_derivation_decides_rule (schema : Schema) (wrapperFields : List String) :
    let table := schema.scannedRules wrapperFields
    schema.deriveRules wrapperFields = table.cutLoops ∧
      table.names = ((schema.derivingNodes wrapperFields).map (·.1)).eraseDups ∧
      ∀ name rule, table.get? name = some rule ↔
        ∃ front node back, schema.propertyNodes = front ++ (name, node) :: back ∧
          schema.Derives wrapperFields node rule ∧
          ∀ earlier, (name, earlier) ∈ front →
            ∀ other, ¬ schema.Derives wrapperFields earlier other := by
  intro table
  refine ⟨rfl, ?_, ?_⟩
  · rw [show table = _ from scannedRules_eq, RuleTable.names_addAll, names_derivations]
  · intro name rule
    rw [show table = _ from scannedRules_eq, RuleTable.get?_addAll, lookup_derivations_iff]

end Schema

end Pipewright
