import Pipewright.Proofs.Canonical.Lifting
import Pipewright.Proofs.Canonical.Sorting

/-!
# Normalization ends

`Normalizes` is a finite run of normalization that applies rules one at a time: a
lifted value is larger than the scalar it came from, and it is normalized under
the rules of its own fields.  Where all links of the table end, every document
has exactly one run, and its result is the normal form.  Where the links of a
property do not end, a scalar under it has none.
-/

namespace Pipewright

namespace Canonical

mutual

/-- A run that takes a document to its normal form. -/
inductive Normalizes (table : RuleTable) : Json → Json → Prop where
  | null : Normalizes table .null .null
  | boolean (value : Bool) : Normalizes table (.boolean value) (.boolean value)
  | number (value : Number) : Normalizes table (.number value) (.number value)
  | string (text : String) : Normalizes table (.string text) (.string (tidy text))
  | array {items normals : List Json} :
      NormalizesItems table items normals →
      Normalizes table (.array items) (.array normals)
  | object {members normals : Members} :
      NormalizesMembers table (sortMembers members) normals →
      Normalizes table (.object members) (.object normals)

/-- Runs for the elements of an array. -/
inductive NormalizesItems (table : RuleTable) : List Json → List Json → Prop where
  | nil : NormalizesItems table [] []
  | cons {item normal : Json} {items normals : List Json} :
      Normalizes table item normal → NormalizesItems table items normals →
      NormalizesItems table (item :: items) (normal :: normals)

/-- Runs for the members of an object, each after one application of the rule of
its key. -/
inductive NormalizesMembers (table : RuleTable) : Members → Members → Prop where
  | nil : NormalizesMembers table [] []
  | cons {key : String} {value normal : Json} {members normals : Members} :
      Normalizes table (liftOnce table key value) normal →
      NormalizesMembers table members normals →
      NormalizesMembers table ((key, value) :: members) ((key, normal) :: normals)

end

variable {table : RuleTable}

/-! ## Runs exist -/

theorem NormalizesMembers.insert {key : String} {value normal : Json}
    {members normals : Members}
    (head : Normalizes table (liftOnce table key value) normal)
    (rest : NormalizesMembers table members normals) :
    NormalizesMembers table (insertMember (key, value) members)
      (insertMember (key, normal) normals) := by
  induction members generalizing normals with
  | nil =>
      cases rest
      exact .cons head .nil
  | cons first members inner =>
      cases rest with
      | @cons other _ _ _ _ firstRun restRuns =>
          simp only [insertMember]
          by_cases before : key ≤ other
          · simp only [before, if_true]
            exact .cons head (.cons firstRun restRuns)
          · simp only [before, if_false]
            exact .cons firstRun (inner restRuns)

/-- Sorting the members before or after normalizing them makes no difference. -/
theorem NormalizesMembers.sort {members normals : Members}
    (runs : NormalizesMembers table members normals) :
    NormalizesMembers table (sortMembers members) (sortMembers normals) := by
  induction members generalizing normals with
  | nil =>
      cases runs
      exact .nil
  | cons first members inner =>
      cases runs with
      | cons head rest => exact (inner rest).insert head

/-- A scalar that is lifted one rule at a time arrives where lifting it all the way
leads.  The induction is on the links that are followed. -/
theorem normalizes_liftOnce {property : String} {scalar normal : Json}
    (ends : table.Ends property) (liftable : isLiftable scalar = true)
    (run : Normalizes table scalar normal) :
    Normalizes table (liftOnce table property scalar) (lift table property normal) := by
  induction ends with
  | @stop property unlinked =>
      rw [liftOnce_of_unlinked liftable unlinked, lift_of_unlinked unlinked]
      unfold promoted
      split
      · exact .array (.cons run .nil)
      · exact run
  | @step property field linked ends inner =>
      rw [liftOnce_of_linked liftable linked, lift_of_linked normal linked ends]
      exact .object (.cons inner .nil)

mutual

/-- Where all links end, every document has a run to its normal form. -/
theorem normalizes_normalize (ends : ∀ property, table.Ends property) (document : Json) :
    Normalizes table document (normalize table document) := by
  cases document with
  | null => exact .null
  | boolean value => exact .boolean value
  | number value => exact .number value
  | string text => exact .string text
  | array items => exact .array (normalizesItems_normalizeItems ends items)
  | object members =>
      exact .object (normalizesMembers_normalizeMembers ends members).sort

theorem normalizesItems_normalizeItems (ends : ∀ property, table.Ends property)
    (items : List Json) : NormalizesItems table items (normalizeItems table items) := by
  cases items with
  | nil => exact .nil
  | cons item items =>
      exact .cons (normalizes_normalize ends item) (normalizesItems_normalizeItems ends items)

theorem normalizesMembers_normalizeMembers (ends : ∀ property, table.Ends property)
    (members : Members) :
    NormalizesMembers table members (normalizeMembers table members) := by
  cases members with
  | nil => exact .nil
  | cons member members =>
      obtain ⟨key, value⟩ := member
      have run := normalizes_normalize ends value
      refine .cons ?_ (normalizesMembers_normalizeMembers ends members)
      by_cases liftable : isLiftable value = true
      · rw [if_pos liftable]
        exact normalizes_liftOnce (ends key) liftable run
      · rw [if_neg liftable, liftOnce_of_not_liftable (Bool.eq_false_iff.mpr liftable)]
        exact run

end

/-! ## Runs are unique -/

mutual

theorem Normalizes.unique {document normal normal' : Json}
    (run : Normalizes table document normal) (run' : Normalizes table document normal') :
    normal = normal' := by
  cases run with
  | null => cases run'; rfl
  | boolean => cases run'; rfl
  | number => cases run'; rfl
  | string => cases run'; rfl
  | array items =>
      cases run' with
      | array items' => rw [NormalizesItems.unique items items']
  | object members =>
      cases run' with
      | object members' => rw [NormalizesMembers.unique members members']

theorem NormalizesItems.unique {items normals normals' : List Json}
    (runs : NormalizesItems table items normals)
    (runs' : NormalizesItems table items normals') : normals = normals' := by
  cases runs with
  | nil => cases runs'; rfl
  | cons head rest =>
      cases runs' with
      | cons head' rest' =>
          rw [Normalizes.unique head head', NormalizesItems.unique rest rest']

theorem NormalizesMembers.unique {members normals normals' : Members}
    (runs : NormalizesMembers table members normals)
    (runs' : NormalizesMembers table members normals') : normals = normals' := by
  cases runs with
  | nil => cases runs'; rfl
  | cons head rest =>
      cases runs' with
      | cons head' rest' =>
          rw [Normalizes.unique head head', NormalizesMembers.unique rest rest']

end

/-- Where all links end, the normal form is the one result of a run. -/
theorem normalizes_iff (ends : ∀ property, table.Ends property) (document normal : Json) :
    Normalizes table document normal ↔ normal = normalize table document := by
  constructor
  · intro run
    exact run.unique (normalizes_normalize ends document)
  · intro same
    rw [same]
    exact normalizes_normalize ends document

/-! ## Loops have no run -/

mutual

private theorem Normalizes.ends_of_lifted {document normal : Json}
    (run : Normalizes table document normal) {property : String} {scalar : Json}
    (liftable : isLiftable scalar = true) (lifted : document = liftOnce table property scalar) :
    table.Ends property := by
  cases linked : table.wrapField? property with
  | none => exact .stop linked
  | some field =>
      rw [liftOnce_of_linked liftable linked] at lifted
      cases run with
      | object members =>
          cases lifted
          exact .step linked (NormalizesMembers.ends_of_lifted members liftable rfl)
      | _ => cases lifted

private theorem NormalizesMembers.ends_of_lifted {members normals : Members}
    (runs : NormalizesMembers table members normals) {field : String} {scalar : Json}
    (liftable : isLiftable scalar = true) (lone : members = [(field, scalar)]) :
    table.Ends field := by
  cases runs with
  | nil => cases lone
  | cons head _ =>
      cases lone
      exact Normalizes.ends_of_lifted head liftable rfl

end

/-- A scalar under a property has a run only if the links of the property end. -/
theorem exists_normalizes_lifted_iff {property : String} {scalar : Json}
    (liftable : isLiftable scalar = true) :
    (∃ normal, Normalizes table (liftOnce table property scalar) normal) ↔
      table.Ends property := by
  constructor
  · intro ⟨normal, run⟩
    exact run.ends_of_lifted liftable rfl
  · intro ends
    have run : ∃ normal, Normalizes table scalar normal := by
      cases scalar with
      | null => cases liftable
      | boolean value => exact ⟨_, .boolean value⟩
      | number value => exact ⟨_, .number value⟩
      | string text => exact ⟨_, .string text⟩
      | array => cases liftable
      | object => cases liftable
    obtain ⟨normal, run⟩ := run
    exact ⟨_, normalizes_liftOnce ends liftable run⟩

/-! ## Derived tables -/

theorem mem_normalizeMembers {key : String} {value : Json} {members : Members}
    (member : (key, value) ∈ members) (liftable : isLiftable value = true) :
    (key, lift table key (normalize table value)) ∈ normalizeMembers table members := by
  induction members with
  | nil => cases member
  | cons first members inner =>
      obtain ⟨firstKey, firstValue⟩ := first
      rcases List.mem_cons.mp member with same | later
      · cases same
        simp [normalizeMembers, liftable]
      · exact List.mem_cons_of_mem _ (inner later)

/-- With the rules derived from a schema, normalization ends on every document.
Links lead from every property to one without a link, each document has exactly
one run, and a scalar is lifted into at most as many objects as there are wrapping
rules and at most one array. -/
theorem normalization_ends (schema : Schema) (wrapperFields : List String) :
    let table := schema.deriveRules wrapperFields
    (∀ property, ∃ fields last, table.LinkPath property fields last ∧
      table.wrapField? last = none ∧ fields.length ≤ table.wrapFields.length) ∧
    (∀ document normal,
      Normalizes table document normal ↔ normal = normalize table document) ∧
    (∀ members, ∃ normals, normalize table (.object members) = .object normals ∧
      ∀ key scalar, (key, scalar) ∈ members → isLiftable scalar = true →
        ∃ fields core, (key, nest fields core) ∈ normals ∧
          fields.length ≤ table.wrapFields.length ∧
          (core = normalize table scalar ∨ core = .array [normalize table scalar])) := by
  intro table
  have ends : ∀ property, table.Ends property :=
    schema.deriveRules_ends wrapperFields
  refine ⟨?_, normalizes_iff ends, ?_⟩
  · intro property
    obtain ⟨fields, last, path, unlinked⟩ := (ends property).exists_path
    exact ⟨fields, last, path, unlinked, path.length_le unlinked⟩
  · intro members
    refine ⟨sortMembers (normalizeMembers table members), rfl, ?_⟩
    intro key scalar member liftable
    obtain ⟨fields, core, lifted, bounded, shape⟩ :=
      lift_nests (normalize table scalar) (ends key)
    refine ⟨fields, core, ?_, bounded, shape⟩
    rw [← lifted]
    exact (sortMembers_perm _).mem_iff.mpr (mem_normalizeMembers member liftable)

/-- A schema in which `environment` holds a name or an object with a name. -/
def environmentSchema : Schema :=
  let name : Node := { Node.any with types := [.string] }
  let named : Node := { Node.any with types := [.object], properties := [("name", name)] }
  ⟨"", { Node.any with
    properties := [("environment", { Node.any with oneOf := [name, named] })] }, []⟩

theorem normalization_ends_on_environment :
    let table := environmentSchema.deriveRules ["name"]
    table.get? "environment" = some (.wrapInObject "name") ∧
      ∃ normals, normalize table (.object [("environment", .string "prod")]) =
          .object normals ∧
        ∃ fields core, ("environment", nest fields core) ∈ normals ∧
          fields.length ≤ table.wrapFields.length ∧
          (core = normalize table (.string "prod") ∨
            core = .array [normalize table (.string "prod")]) := by
  intro table
  obtain ⟨_, _, lifted⟩ := normalization_ends environmentSchema ["name"]
  obtain ⟨normals, normal, bounds⟩ := lifted [("environment", .string "prod")]
  refine ⟨by decide +kernel, normals, normal, ?_⟩
  exact bounds "environment" (.string "prod") (by simp) rfl

end Canonical

end Pipewright
