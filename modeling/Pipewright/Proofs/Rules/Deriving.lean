import Pipewright.Proofs.Resolution.Runs
import Pipewright.Rules.Derivation

/-!
# What a property derives

A property that is no reference, or behind its references the one they lead to, derives a
rule when it admits one lone scalar beside arrays of such scalars or beside objects.  The
forms are the alternatives of a union that can be reached, or the types of a list of types.
An array comes before an object; among objects and among wrapper fields the first one
decides.
-/

namespace Pipewright

/-- A list keeps one image when one of its elements has it and the others have none. -/
theorem filterMap_eq_singleton_iff {α β : Type} {image : α → Option β} {list : List α}
    {only : β} : list.filterMap image = [only] ↔
      ∃ front element back, list = front ++ element :: back ∧ image element = some only ∧
        ∀ other ∈ front ++ back, image other = none := by
  rw [List.filterMap_eq_cons_iff]
  constructor
  · rintro ⟨front, element, back, split, before, found, behind⟩
    refine ⟨front, element, back, split, found, ?_⟩
    exact List.forall_mem_append.mpr ⟨before, List.filterMap_eq_nil_iff.mp behind⟩
  · rintro ⟨front, element, back, split, found, others⟩
    obtain ⟨before, behind⟩ := List.forall_mem_append.mp others
    exact ⟨front, element, back, split, before, found, List.filterMap_eq_nil_iff.mpr behind⟩

theorem filter_eq_singleton_iff {α : Type} {keeps : α → Bool} {list : List α} {only : α} :
    list.filter keeps = [only] ↔
      ∃ front back, list = front ++ only :: back ∧ keeps only = true ∧
        ∀ other ∈ front ++ back, keeps other = false := by
  rw [List.filter_eq_cons_iff]
  constructor
  · rintro ⟨front, back, split, before, kept, behind⟩
    refine ⟨front, back, split, kept, ?_⟩
    refine List.forall_mem_append.mpr ⟨?_, ?_⟩
    · exact fun other early => Bool.eq_false_iff.mpr (before other early)
    · exact fun other late => Bool.eq_false_iff.mpr (List.filter_eq_nil_iff.mp behind other late)
  · rintro ⟨front, back, split, kept, others⟩
    obtain ⟨before, behind⟩ := List.forall_mem_append.mp others
    refine ⟨front, back, split, ?_, kept, List.filter_eq_nil_iff.mpr ?_⟩
    · exact fun other early => Bool.eq_false_iff.mp (before other early)
    · exact fun other late => Bool.eq_false_iff.mp (behind other late)

/-! ## Where references lead -/

namespace Schema

/-- References lead from a node to one that is none; the list has them in order. -/
inductive Leads (schema : Schema) : Node → List String → Node → Prop where
  | here {node : Node} : node.reference = none → Leads schema node [] node
  | step {node next target : Node} {reference : String} {references : List String} :
      node.reference = some reference → schema.definition? reference = some next →
      Leads schema next references target →
      Leads schema node (reference :: references) target

/-- A node, or the one that its references lead to. -/
def Reaches (schema : Schema) (node target : Node) : Prop :=
  ∃ references, schema.Leads node references target

variable {schema : Schema}

theorem Leads.unique {node target target' : Node} {references references' : List String}
    (leads : schema.Leads node references target)
    (leads' : schema.Leads node references' target') : references = references' := by
  induction leads generalizing references' with
  | here arrived =>
      cases leads' with
      | here => rfl
      | step isReference => rw [arrived] at isReference; cases isReference
  | step isReference found _ inner =>
      cases leads' with
      | here arrived => rw [arrived] at isReference; cases isReference
      | step isReference' found' rest =>
          rw [isReference] at isReference'
          cases isReference'
          rw [found] at found'
          cases found'
          rw [inner rest]

/-- From a reference on the way the rest of the way is shorter. -/
theorem Leads.from_mem {node target : Node} {references : List String} {reference : String}
    (leads : schema.Leads node references target) (listed : reference ∈ references) :
    ∃ next rest, schema.definition? reference = some next ∧ schema.Leads next rest target ∧
      rest.length < references.length := by
  induction leads with
  | here => cases listed
  | @step node next target first references isReference found rest inner =>
      rcases List.mem_cons.mp listed with rfl | later
      · exact ⟨next, references, found, rest, Nat.lt_succ_self _⟩
      · obtain ⟨next', rest', found', leads', shorter⟩ := inner later
        exact ⟨next', rest', found', leads', Nat.lt_succ_of_lt shorter⟩

/-- A way that comes to an end passes no reference twice. -/
theorem Leads.nodup {node target : Node} {references : List String}
    (leads : schema.Leads node references target) : references.Nodup := by
  induction leads with
  | here => exact List.nodup_nil
  | step isReference found rest inner =>
      refine List.nodup_cons.mpr ⟨?_, inner⟩
      intro repeated
      obtain ⟨next', rest', found', leads', shorter⟩ := rest.from_mem repeated
      rw [found] at found'
      cases found'
      rw [rest.unique leads'] at shorter
      exact Nat.lt_irrefl _ shorter

theorem Leads.follows {node target : Node} {references stack : List String}
    (leads : schema.Leads node references target) (distinct : references.Nodup)
    (fresh : ∀ reference ∈ references, reference ∉ stack) :
    schema.Follows stack node (.ok (some target)) (stack ++ references) := by
  induction leads generalizing stack with
  | here arrived => rw [List.append_nil]; exact .arrived arrived
  | @step node next target first references isReference found _ inner =>
      obtain ⟨absent, distinctRest⟩ := List.nodup_cons.mp distinct
      have restFresh : ∀ reference ∈ references, reference ∉ stack ++ [first] := by
        intro reference later seen
        rcases List.mem_append.mp seen with early | now
        · exact fresh reference (List.mem_cons_of_mem _ later) early
        · exact absent (List.mem_singleton.mp now ▸ later)
      have run := inner distinctRest restFresh
      rw [List.append_assoc, List.singleton_append] at run
      exact .entered isReference (fresh first List.mem_cons_self) found run

theorem reaches_of_follows {stack after : List String} {node target : Node}
    {outcome : Resolved (Option Node)} (follows : schema.Follows stack node outcome after)
    (reached : outcome = .ok (some target)) : schema.Reaches node target := by
  induction follows with
  | arrived arrived => cases reached; exact ⟨[], .here arrived⟩
  | repeated => cases reached
  | dangling => cases reached
  | entered isReference _ found _ inner =>
      obtain ⟨references, leads⟩ := inner reached
      exact ⟨_, .step isReference found leads⟩

/-- A node can be reached when references lead there; they do not where one of them names
nothing and where they come back to one of them. -/
theorem reachable?_eq_some_iff {node target : Node} :
    schema.reachable? node = some target ↔ schema.Reaches node target := by
  have resolved : schema.reachable? node = some target ↔
      .ok (some target) = schema.resolve node := by
    unfold reachable?
    cases schema.resolve node with
    | ok found => simp [eq_comm]
    | error cycle => simp
  rw [resolved, ← follows_iff]
  constructor
  · rintro ⟨after, follows⟩
    exact reaches_of_follows follows rfl
  · rintro ⟨references, leads⟩
    exact ⟨[] ++ references, leads.follows leads.nodup fun _ _ => List.not_mem_nil⟩

end Schema

/-! ## Lone scalars and wrapper fields -/

namespace Node

/-- The node lists one promotable type and says nothing about members, elements or other
nodes. -/
structure IsBare (node : Node) (tag : PrimitiveType) : Prop where
  types : node.types = [tag]
  promotable : tag.isPromotable = true
  properties : node.properties = []
  items : node.items = none
  oneOf : node.oneOf = []
  anyOf : node.anyOf = []
  allOf : node.allOf = []

theorem bareScalarType?_eq_some_iff {node : Node} {tag : PrimitiveType} :
    node.bareScalarType? = some tag ↔ node.IsBare tag := by
  constructor
  · intro bare
    unfold bareScalarType? at bare
    split at bare
    · next listed types =>
        split at bare
        · next plain =>
            cases bare
            simp only [isUnion, Bool.and_eq_true, Bool.not_eq_true', Bool.or_eq_false_iff,
              Bool.not_eq_false', List.isEmpty_iff, Option.isNone_iff_eq_none] at plain
            obtain ⟨⟨⟨⟨promotable, properties⟩, items⟩, oneOf, anyOf⟩, allOf⟩ := plain
            exact ⟨types, promotable, properties, items, oneOf, anyOf, allOf⟩
        · cases bare
    · cases bare
  · rintro ⟨types, promotable, properties, items, oneOf, anyOf, allOf⟩
    simp [bareScalarType?, isUnion, types, promotable, properties, items, oneOf, anyOf, allOf]

theorem IsBare.not_isObjectLike {node : Node} {tag : PrimitiveType} (bare : node.IsBare tag) :
    node.isObjectLike = false := by
  have promotable := bare.promotable
  rw [isObjectLike, declares, bare.types, bare.properties]
  cases tag <;> first | rfl | cases promotable

/-- The node has a property of this name. -/
def Has (node : Node) (name : String) : Prop :=
  ∃ property, (name, property) ∈ node.properties

/-- The first of the fields that the node has as a property. -/
def HasFirst (node : Node) (fields : List String) (field : String) : Prop :=
  ∃ before behind, fields = before ++ field :: behind ∧ node.Has field ∧
    ∀ earlier ∈ before, ¬ node.Has earlier

theorem lookup_isSome_iff_has {node : Node} {name : String} :
    (node.properties.lookup name).isSome = true ↔ node.Has name := by
  rw [List.lookup_isSome_iff, Has]
  constructor
  · rintro ⟨⟨key, property⟩, listed, same⟩
    exact ⟨property, eq_of_beq same ▸ listed⟩
  · rintro ⟨property, listed⟩
    exact ⟨(name, property), listed, beq_self_eq_true name⟩

theorem wrapperField?_eq_some_iff {node : Node} {fields : List String} {field : String} :
    node.wrapperField? fields = some field ↔ node.HasFirst fields field := by
  rw [wrapperField?, List.find?_eq_some_iff_append, lookup_isSome_iff_has, HasFirst]
  simp only [Bool.not_eq_true', ← lookup_isSome_iff_has, Bool.not_eq_true]
  constructor
  · rintro ⟨has, before, behind, split, others⟩
    exact ⟨before, behind, split, has, others⟩
  · rintro ⟨before, behind, split, has, others⟩
    exact ⟨has, before, behind, split, others⟩

theorem wrapperField?_eq_none_iff {node : Node} {fields : List String} :
    node.wrapperField? fields = none ↔ ∀ field ∈ fields, ¬ node.Has field := by
  rw [wrapperField?, List.find?_eq_none]
  simp only [lookup_isSome_iff_has]

end Node

/-! ## The forms of a property -/

namespace Schema

/-- The elements of an array are described by a bare scalar of a compatible type. -/
def HoldsOnly (schema : Schema) (scalar : PrimitiveType) (array : Node) : Prop :=
  ∃ items element tag, array.items = some items ∧ schema.Reaches items element ∧
    element.IsBare tag ∧ tag.compatible scalar = true

/-- The lone scalar that a property admits: the only bare scalar among the alternatives of a
union, or the only promotable type of a list of types. -/
inductive LoneScalar (schema : Schema) (property : Node) (scalar : PrimitiveType) : Prop where
  | alternative {front back : List Node} {alternative target : Node} :
      property.isUnion = true → property.alternatives = front ++ alternative :: back →
      schema.Reaches alternative target → target.IsBare scalar →
      (∀ other ∈ front ++ back, ∀ reached tag,
        schema.Reaches other reached → ¬ reached.IsBare tag) →
      LoneScalar schema property scalar
  | type {front back : List PrimitiveType} :
      property.isUnion = false → property.types = front ++ scalar :: back →
      scalar.isPromotable = true → (∀ other ∈ front ++ back, other.isPromotable = false) →
      LoneScalar schema property scalar

/-- The arrays that a property admits: alternatives of the type array, or the property itself
if it lists this type. -/
inductive ArrayForm (schema : Schema) (property : Node) : Node → Prop where
  | alternative {alternative array : Node} :
      property.isUnion = true → alternative ∈ property.alternatives →
      schema.Reaches alternative array → array.types = [.array] → ArrayForm schema property array
  | type :
      property.isUnion = false → .array ∈ property.types → ArrayForm schema property property

/-- The field to wrap a scalar under: of the first alternative for objects that has one of
the fields, or of the property itself if it lists the type of objects. -/
inductive FirstWrapper (schema : Schema) (fields : List String) (property : Node)
    (field : String) : Prop where
  | alternative {front back : List Node} {alternative object : Node} :
      property.isUnion = true → property.alternatives = front ++ alternative :: back →
      schema.Reaches alternative object → object.isObjectLike = true →
      object.HasFirst fields field →
      (∀ earlier ∈ front, ∀ other, schema.Reaches earlier other → other.isObjectLike = true →
        ∀ name ∈ fields, ¬ other.Has name) →
      FirstWrapper schema fields property field
  | type :
      property.isUnion = false → .object ∈ property.types → property.HasFirst fields field →
      FirstWrapper schema fields property field

/-- A property derives a rule.  An array of the lone scalar comes before an object that
carries it. -/
inductive Derives (schema : Schema) (fields : List String) (property : Node) : Rule → Prop where
  | promote {target array : Node} {scalar : PrimitiveType} :
      schema.Reaches property target → schema.LoneScalar target scalar →
      schema.ArrayForm target array → schema.HoldsOnly scalar array →
      Derives schema fields property .promoteToArray
  | wrap {target : Node} {scalar : PrimitiveType} {field : String} :
      schema.Reaches property target → schema.LoneScalar target scalar →
      (∀ array, schema.ArrayForm target array → ¬ schema.HoldsOnly scalar array) →
      schema.FirstWrapper fields target field →
      Derives schema fields property (.wrapInObject field)

variable {schema : Schema} {fields : List String}

theorem itemsAre_iff {array : Node} {scalar : PrimitiveType} :
    schema.itemsAre array scalar = true ↔ schema.HoldsOnly scalar array := by
  unfold itemsAre
  constructor
  · intro compatible
    split at compatible
    · next tag found =>
        obtain ⟨items, described, found⟩ := Option.bind_eq_some_iff.mp found
        obtain ⟨element, reached, bare⟩ := Option.bind_eq_some_iff.mp found
        exact ⟨items, element, tag, described, reachable?_eq_some_iff.mp reached,
          Node.bareScalarType?_eq_some_iff.mp bare, compatible⟩
    · cases compatible
  · rintro ⟨items, element, tag, described, reached, bare, compatible⟩
    rw [described, Option.bind_some, reachable?_eq_some_iff.mpr reached, Option.bind_some,
      Node.bareScalarType?_eq_some_iff.mpr bare]
    exact compatible

/-! ## Deriving as it is computed -/

/-- The types of the lone scalars that a property admits. -/
def scalarForms (schema : Schema) (property : Node) : List PrimitiveType :=
  if property.isUnion then
    (property.alternatives.filterMap schema.reachable?).filterMap (·.bareScalarType?)
  else property.types.filter (·.isPromotable)

/-- The arrays that a property admits. -/
def arrayForms (schema : Schema) (property : Node) : List Node :=
  if property.isUnion then
    (property.alternatives.filterMap schema.reachable?).filter (·.types == [.array])
  else if property.declares .array then [property]
  else []

/-- The objects that a property admits. -/
def objectForms (schema : Schema) (property : Node) : List Node :=
  if property.isUnion then
    (property.alternatives.filterMap schema.reachable?).filter (·.isObjectLike)
  else if property.declares .object then [property]
  else []

/-- A node for objects is no bare scalar. -/
theorem filter_isObjectLike (nodes : List Node) :
    (nodes.filter fun node => node.isObjectLike && node.bareScalarType?.isNone) =
      nodes.filter (·.isObjectLike) := by
  refine List.filter_congr ?_
  intro node _
  cases bare : node.bareScalarType? with
  | none => exact Bool.and_true _
  | some tag =>
      rw [(Node.bareScalarType?_eq_some_iff.mp bare).not_isObjectLike]
      rfl

theorem ruleFor?_eq (property : Node) :
    schema.ruleFor? fields property = (schema.reachable? property).bind fun target =>
      match schema.scalarForms target with
      | [scalar] =>
          if (schema.arrayForms target).any (schema.itemsAre · scalar) then some .promoteToArray
          else ((schema.objectForms target).findSome? (·.wrapperField? fields)).map .wrapInObject
      | _ => none := by
  unfold ruleFor?
  cases schema.reachable? property with
  | none => rfl
  | some target =>
      simp only [Option.bind_some, scalarForms, arrayForms, objectForms]
      by_cases union : target.isUnion = true
      · simp only [if_pos union]
        generalize target.alternatives.filterMap schema.reachable? = alternatives
        generalize alternatives.filterMap (·.bareScalarType?) = scalars
        rcases scalars with _ | ⟨scalar, _ | _⟩
        · rfl
        · simp only [promotion?, List.any_filter, filter_isObjectLike]
        · rfl
      · simp only [if_neg union]
        generalize target.types.filter (·.isPromotable) = scalars
        rcases scalars with _ | ⟨scalar, _ | _⟩
        · rfl
        · cases target.declares .array <;> cases target.declares .object <;> simp
        · rfl

theorem scalarForms_eq_singleton_iff {property : Node} {scalar : PrimitiveType} :
    schema.scalarForms property = [scalar] ↔ schema.LoneScalar property scalar := by
  unfold scalarForms
  constructor
  · intro lone
    split at lone
    · next union =>
        rw [List.filterMap_filterMap, filterMap_eq_singleton_iff] at lone
        obtain ⟨front, alternative, back, split, found, others⟩ := lone
        obtain ⟨target, reached, bare⟩ := Option.bind_eq_some_iff.mp found
        refine .alternative union split (reachable?_eq_some_iff.mp reached)
          (Node.bareScalarType?_eq_some_iff.mp bare) ?_
        intro other listed target' tag reached' bare'
        have absent := others other listed
        rw [reachable?_eq_some_iff.mpr reached', Option.bind_some,
          Node.bareScalarType?_eq_some_iff.mpr bare'] at absent
        cases absent
    · next single =>
        obtain ⟨front, back, split, promotable, others⟩ := filter_eq_singleton_iff.mp lone
        exact .type (Bool.eq_false_iff.mpr single) split promotable others
  · intro lone
    cases lone with
    | @alternative front back alternative target union split reached bare others =>
        rw [if_pos union, List.filterMap_filterMap, filterMap_eq_singleton_iff]
        refine ⟨front, alternative, back, split, ?_, ?_⟩
        · rw [reachable?_eq_some_iff.mpr reached, Option.bind_some,
            Node.bareScalarType?_eq_some_iff.mpr bare]
        · intro other listed
          refine Option.eq_none_iff_forall_ne_some.mpr ?_
          intro tag found
          obtain ⟨target', reached', bare'⟩ := Option.bind_eq_some_iff.mp found
          exact others other listed target' tag (reachable?_eq_some_iff.mp reached')
            (Node.bareScalarType?_eq_some_iff.mp bare')
    | type single split promotable others =>
        rw [if_neg (Bool.eq_false_iff.mp single)]
        exact filter_eq_singleton_iff.mpr ⟨_, _, split, promotable, others⟩

theorem mem_arrayForms_iff {property array : Node} :
    array ∈ schema.arrayForms property ↔ schema.ArrayForm property array := by
  unfold arrayForms
  constructor
  · intro listed
    split at listed
    · next union =>
        obtain ⟨listed, types⟩ := List.mem_filter.mp listed
        obtain ⟨alternative, place, reached⟩ := List.mem_filterMap.mp listed
        exact .alternative union place (reachable?_eq_some_iff.mp reached) (eq_of_beq types)
    · next single =>
        split at listed
        · next declared =>
            rw [List.mem_singleton.mp listed]
            exact .type (Bool.eq_false_iff.mpr single) (List.contains_iff_mem.mp declared)
        · cases listed
  · intro form
    cases form with
    | alternative union place reached types =>
        rw [if_pos union]
        refine List.mem_filter.mpr ⟨?_, beq_iff_eq.mpr types⟩
        exact List.mem_filterMap.mpr ⟨_, place, reachable?_eq_some_iff.mpr reached⟩
    | type single declared =>
        rw [if_neg (Bool.eq_false_iff.mp single), Node.declares,
          if_pos (List.contains_iff_mem.mpr declared)]
        exact List.mem_singleton_self _

/-- The field that the alternative has first, if it leads to a node for objects. -/
def alternativeField? (schema : Schema) (fields : List String) (alternative : Node) :
    Option String :=
  ((schema.reachable? alternative).filter (·.isObjectLike)).bind (·.wrapperField? fields)

theorem alternativeField?_eq_some_iff {alternative : Node} {field : String} :
    schema.alternativeField? fields alternative = some field ↔
      ∃ object, schema.Reaches alternative object ∧ object.isObjectLike = true ∧
        object.HasFirst fields field := by
  simp only [alternativeField?, Option.bind_eq_some_iff, Option.filter_eq_some_iff,
    reachable?_eq_some_iff, Node.wrapperField?_eq_some_iff, and_assoc]

theorem alternativeField?_eq_none_iff {alternative : Node} :
    schema.alternativeField? fields alternative = none ↔
      ∀ object, schema.Reaches alternative object → object.isObjectLike = true →
        ∀ name ∈ fields, ¬ object.Has name := by
  simp only [alternativeField?, Option.bind_eq_none_iff, Option.filter_eq_some_iff,
    reachable?_eq_some_iff, Node.wrapperField?_eq_none_iff, and_imp]

theorem findSome?_objectForms_iff {property : Node} {field : String} :
    (schema.objectForms property).findSome? (·.wrapperField? fields) = some field ↔
      schema.FirstWrapper fields property field := by
  unfold objectForms
  constructor
  · intro wraps
    split at wraps
    · next union =>
        rw [List.filter_filterMap, ← List.head?_filterMap, List.filterMap_filterMap,
          List.head?_filterMap] at wraps
        obtain ⟨front, alternative, back, split, found, others⟩ :=
          List.findSome?_eq_some_iff.mp wraps
        obtain ⟨object, reached, isObject, first⟩ := alternativeField?_eq_some_iff.mp found
        refine .alternative union split reached isObject first ?_
        exact fun earlier listed => alternativeField?_eq_none_iff.mp (others earlier listed)
    · next single =>
        split at wraps
        · next declared =>
            rw [List.findSome?_singleton] at wraps
            exact .type (Bool.eq_false_iff.mpr single) (List.contains_iff_mem.mp declared)
              (Node.wrapperField?_eq_some_iff.mp wraps)
        · cases wraps
  · intro wraps
    cases wraps with
    | alternative union split reached isObject first others =>
        rw [if_pos union, List.filter_filterMap, ← List.head?_filterMap, List.filterMap_filterMap,
          List.head?_filterMap]
        refine List.findSome?_eq_some_iff.mpr ⟨_, _, _, split, ?_, ?_⟩
        · exact alternativeField?_eq_some_iff.mpr ⟨_, reached, isObject, first⟩
        · exact fun earlier listed => alternativeField?_eq_none_iff.mpr (others earlier listed)
    | type single declared first =>
        rw [if_neg (Bool.eq_false_iff.mp single), Node.declares,
          if_pos (List.contains_iff_mem.mpr declared), List.findSome?_singleton]
        exact Node.wrapperField?_eq_some_iff.mpr first

/-- Deriving is what `ruleFor?` computes. -/
theorem ruleFor?_eq_some_iff {property : Node} {rule : Rule} :
    schema.ruleFor? fields property = some rule ↔ schema.Derives fields property rule := by
  rw [ruleFor?_eq]
  constructor
  · intro derived
    obtain ⟨target, reached, derived⟩ := Option.bind_eq_some_iff.mp derived
    have reaches := reachable?_eq_some_iff.mp reached
    split at derived
    · next scalar lone =>
        have loneScalar := scalarForms_eq_singleton_iff.mp lone
        split at derived
        · next promotes =>
            cases derived
            obtain ⟨array, form, holds⟩ := List.any_eq_true.mp promotes
            exact .promote reaches loneScalar (mem_arrayForms_iff.mp form)
              (itemsAre_iff.mp holds)
        · next neverPromotes =>
            obtain ⟨field, wraps, rfl⟩ := Option.map_eq_some_iff.mp derived
            refine .wrap reaches loneScalar ?_ (findSome?_objectForms_iff.mp wraps)
            intro array form holds
            exact neverPromotes (List.any_eq_true.mpr
              ⟨array, mem_arrayForms_iff.mpr form, itemsAre_iff.mpr holds⟩)
    · cases derived
  · intro derives
    cases derives with
    | @promote target array scalar reaches loneScalar form holds =>
        have promotes : (schema.arrayForms target).any (schema.itemsAre · scalar) = true :=
          List.any_eq_true.mpr ⟨array, mem_arrayForms_iff.mpr form, itemsAre_iff.mpr holds⟩
        rw [reachable?_eq_some_iff.mpr reaches, Option.bind_some,
          scalarForms_eq_singleton_iff.mpr loneScalar]
        exact if_pos promotes
    | wrap reaches loneScalar neverPromotes wraps =>
        rw [reachable?_eq_some_iff.mpr reaches, Option.bind_some,
          scalarForms_eq_singleton_iff.mpr loneScalar]
        simp only
        rw [if_neg, findSome?_objectForms_iff.mpr wraps, Option.map_some]
        intro promotes
        obtain ⟨array, form, holds⟩ := List.any_eq_true.mp promotes
        exact neverPromotes array (mem_arrayForms_iff.mp form) (itemsAre_iff.mp holds)

end Schema

end Pipewright
