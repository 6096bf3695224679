import Mathlib.Data.List.Nodup
import Pipewright.Proofs.Walk.Paths

/-!
# Places of a document

The places of a document are known by their paths.  Following a path from the root, each
step leads from a place to the place of a member or an element, with the node that
applies there, as long as some node applies to the places on the way.
-/

namespace Pipewright

namespace Json

mutual

/-- The paths of a document: each place before those below it, the members of an object in
their order and the elements of an array by ascending position. -/
def paths : Json → List (List Step)
  | .object members => [] :: memberPaths members
  | .array items => [] :: itemPaths 0 items
  | _ => [[]]

/-- The paths that lead into the members of an object. -/
def memberPaths : Members → List (List Step)
  | [] => []
  | (key, value) :: rest => value.paths.map (.key key :: ·) ++ memberPaths rest

/-- The paths that lead into the elements of an array from position `position` on. -/
def itemPaths (position : Nat) : List Json → List (List Step)
  | [] => []
  | value :: rest => value.paths.map (.index position :: ·) ++ itemPaths (position + 1) rest

end

theorem nil_mem_paths (document : Json) : [] ∈ document.paths := by
  cases document <;> simp [paths]

theorem mem_memberPaths {members : Members} {path : List Step} :
    path ∈ memberPaths members ↔
      ∃ key value rest, path = .key key :: rest ∧ (key, value) ∈ members ∧ rest ∈ value.paths := by
  induction members with
  | nil => simp [memberPaths]
  | cons member members inner =>
      obtain ⟨key, value⟩ := member
      rw [memberPaths, List.mem_append, List.mem_map, inner]
      constructor
      · rintro (⟨rest, among, rfl⟩ | ⟨key', value', rest, rfl, later, among⟩)
        · exact ⟨key, value, rest, rfl, List.mem_cons_self, among⟩
        · exact ⟨key', value', rest, rfl, List.mem_cons_of_mem _ later, among⟩
      · rintro ⟨key', value', rest, rfl, mem, among⟩
        rcases List.mem_cons.mp mem with same | later
        · cases same
          exact .inl ⟨rest, among, rfl⟩
        · exact .inr ⟨key', value', rest, rfl, later, among⟩

theorem mem_itemPaths {items : List Json} {path : List Step} {position : Nat} :
    path ∈ itemPaths position items ↔
      ∃ later value rest, path = .index (position + later) :: rest ∧
        items[later]? = some value ∧ rest ∈ value.paths := by
  induction items generalizing position with
  | nil => simp [itemPaths]
  | cons item items inner =>
      rw [itemPaths, List.mem_append, List.mem_map, inner]
      constructor
      · rintro (⟨rest, among, rfl⟩ | ⟨later, value, rest, rfl, found, among⟩)
        · exact ⟨0, item, rest, rfl, rfl, among⟩
        · refine ⟨later + 1, value, rest, ?_, found, among⟩
          rw [Nat.add_right_comm, Nat.add_assoc]
      · rintro ⟨later, value, rest, rfl, found, among⟩
        cases later with
        | zero =>
            cases found
            exact .inl ⟨rest, among, rfl⟩
        | succ later =>
            refine .inr ⟨later, value, rest, ?_, found, among⟩
            rw [Nat.add_right_comm, Nat.add_assoc]

mutual

/-- In a document that lists each key once no path is listed twice. -/
theorem paths_nodup {document : Json} (distinct : document.KeysDistinct) :
    document.paths.Nodup := by
  match document with
  | .object members =>
      rw [paths, List.nodup_cons]
      refine ⟨?_, memberPaths_nodup distinct.1 distinct.2⟩
      intro mem
      obtain ⟨_, _, _, same, _⟩ := mem_memberPaths.mp mem
      cases same
  | .array items =>
      rw [paths, List.nodup_cons]
      refine ⟨?_, itemPaths_nodup distinct 0⟩
      intro mem
      obtain ⟨_, _, _, same, _⟩ := mem_itemPaths.mp mem
      cases same
  | .null | .boolean _ | .number _ | .string _ => exact List.nodup_singleton []

theorem memberPaths_nodup {members : Members} (nodup : (members.map (·.1)).Nodup)
    (distinct : MemberKeysDistinct members) : (memberPaths members).Nodup := by
  match members with
  | [] => exact List.nodup_nil
  | (key, value) :: rest =>
      obtain ⟨new, nodupRest⟩ := List.nodup_cons.mp nodup
      rw [memberPaths, List.nodup_append]
      refine ⟨(paths_nodup distinct.1).map (List.cons_injective), memberPaths_nodup nodupRest
        distinct.2, ?_⟩
      rintro path inFirst _ inRest rfl
      obtain ⟨_, _, rfl⟩ := List.mem_map.mp inFirst
      obtain ⟨key', value', _, same, later, _⟩ := mem_memberPaths.mp inRest
      cases same
      have listed : key ∈ rest.map (·.1) := List.mem_map_of_mem later
      exact new listed

theorem itemPaths_nodup {items : List Json} (distinct : ItemKeysDistinct items)
    (position : Nat) : (itemPaths position items).Nodup := by
  match items with
  | [] => exact List.nodup_nil
  | value :: rest =>
      rw [itemPaths, List.nodup_append]
      refine ⟨(paths_nodup distinct.1).map (List.cons_injective), itemPaths_nodup distinct.2
        (position + 1), ?_⟩
      rintro path inFirst _ inRest rfl
      obtain ⟨_, _, rfl⟩ := List.mem_map.mp inFirst
      obtain ⟨later, _, _, same, _⟩ := mem_itemPaths.mp inRest
      simp only [List.cons.injEq, Step.index.injEq] at same
      omega

end

end Json

namespace Walk

/-- The place of a member or an element of the value at a place. -/
def childPlace? (schema : Schema) (place : Context) (step : Step) : Option Context :=
  match place.node, place.value, step with
  | some node, .object members, .key key =>
      (members.lookup key).bind fun value =>
        (memberContext schema place node key value).toOption
  | some node, .array items, .index position =>
      items[position]?.bind fun value =>
        (itemContext schema place node position value).toOption
  | _, _, _ => none

/-- The place that a path leads to from a place. -/
def placeFrom? (schema : Schema) (place : Context) : List Step → Option Context
  | [] => some place
  | step :: rest => (childPlace? schema place step).bind (placeFrom? schema · rest)

/-- The place that a path leads to in a document. -/
def placeAt? (schema : Schema) (document : Json) (path : List Step) : Option Context :=
  (context schema [] (some schema.root) document none none).toOption.bind
    (placeFrom? schema · path)

/-- A path of the document to a place that is not below an opaque one. -/
structure Visible (schema : Schema) (document : Json) (path : List Step) : Prop where
  present : path ∈ document.paths
  unhidden : ∀ above, above <+: path → above ≠ path →
    ∃ place, placeAt? schema document above = some place ∧ place.shape ≠ .opaqueValue

variable {schema : Schema} {place child : Context} {step : Step}

/-- The shape of the place is that of its node and value. -/
def Shaped (place : Context) : Prop :=
  place.shape = shapeOf place.node place.value

theorem context_shaped {path : List Step} {declared : Option Node} {value : Json}
    {parent : Option Json} {key : Option Step}
    (found : context schema path declared value parent key = .ok place) :
    Shaped place ∧ place.value = value := by
  have same := context_eq found
  have value := congrArg Context.value same
  refine ⟨?_, value⟩
  rw [Shaped, value]
  exact congrArg Context.shape same

theorem Shaped.opaque_iff (shaped : Shaped place) :
    place.shape = .opaqueValue ↔ place.node = none := by
  rw [shaped]
  cases placed : place.node with
  | none => simp [shapeOf]
  | some node => cases place.value <;> simp [shapeOf]

/-! ## Steps -/

theorem childPlace?_key {node : Node} {members : Members} {key : String} {value : Json}
    (placed : place.node = some node) (isObject : place.value = .object members)
    (found : members.lookup key = some value) :
    childPlace? schema place (.key key) =
      (memberContext schema place node key value).toOption := by
  simp only [childPlace?, placed, isObject, found, Option.bind_some]

theorem childPlace?_index {node : Node} {items : List Json} {position : Nat} {value : Json}
    (placed : place.node = some node) (isArray : place.value = .array items)
    (found : items[position]? = some value) :
    childPlace? schema place (.index position) =
      (itemContext schema place node position value).toOption := by
  simp only [childPlace?, placed, isArray, found, Option.bind_some]

theorem ok_of_toOption {α : Type} {resolved : Resolved α} {value : α}
    (found : resolved.toOption = some value) : resolved = .ok value := by
  cases resolved with
  | error cycle => cases found
  | ok other =>
      cases found
      rfl

/-- What a step leads to. -/
inductive StepsTo (schema : Schema) (place : Context) : Step → Context → Prop where
  | key {node : Node} {members : Members} {key : String} {value : Json} {child : Context} :
      place.node = some node → place.value = .object members →
        members.lookup key = some value →
        memberContext schema place node key value = .ok child →
        StepsTo schema place (.key key) child
  | index {node : Node} {items : List Json} {position : Nat} {value : Json} {child : Context} :
      place.node = some node → place.value = .array items → items[position]? = some value →
        itemContext schema place node position value = .ok child →
        StepsTo schema place (.index position) child

theorem childPlace?_eq_some_iff :
    childPlace? schema place step = some child ↔ StepsTo schema place step child := by
  constructor
  · intro found
    unfold childPlace? at found
    split at found
    · next node members key placed isObject =>
        obtain ⟨value, looked, resolved⟩ := Option.bind_eq_some_iff.mp found
        exact .key placed isObject looked (ok_of_toOption resolved)
    · next node items position placed isArray =>
        obtain ⟨value, looked, resolved⟩ := Option.bind_eq_some_iff.mp found
        exact .index placed isArray looked (ok_of_toOption resolved)
    · cases found
  · intro steps
    cases steps with
    | key placed isObject looked resolved =>
        rw [childPlace?_key placed isObject looked, resolved]
        rfl
    | index placed isArray looked resolved =>
        rw [childPlace?_index placed isArray looked, resolved]
        rfl

namespace StepsTo

theorem visible (steps : StepsTo schema place step child) (shaped : Shaped place) :
    place.shape ≠ .opaqueValue := by
  rw [Ne, shaped.opaque_iff]
  cases steps with
  | key placed => simp [placed]
  | index placed => simp [placed]

theorem path_eq (steps : StepsTo schema place step child) :
    child.path = place.path ++ [step] := by
  cases steps with
  | key _ _ _ resolved => exact context_path resolved
  | index _ _ _ resolved => exact context_path resolved

theorem shaped (steps : StepsTo schema place step child) : Shaped child := by
  cases steps with
  | key _ _ _ resolved => exact (context_shaped resolved).1
  | index _ _ _ resolved => exact (context_shaped resolved).1

/-- A path behind the step is a path of the value at the place. -/
theorem mem_paths (steps : StepsTo schema place step child) {rest : List Step}
    (among : rest ∈ child.value.paths) : step :: rest ∈ place.value.paths := by
  cases steps with
  | key _ isObject looked resolved =>
      rw [(context_shaped resolved).2] at among
      rw [isObject, Json.paths]
      apply List.mem_cons_of_mem
      exact Json.mem_memberPaths.mpr ⟨_, _, rest, rfl, mem_of_lookup looked, among⟩
  | index _ isArray looked resolved =>
      rw [(context_shaped resolved).2] at among
      rw [isArray, Json.paths]
      apply List.mem_cons_of_mem
      exact Json.mem_itemPaths.mpr ⟨_, _, rest, by rw [Nat.zero_add], looked, among⟩

end StepsTo

/-! ## Paths -/

theorem placeFrom?_append (front back : List Step) (place : Context) :
    placeFrom? schema place (front ++ back) =
      (placeFrom? schema place front).bind (placeFrom? schema · back) := by
  induction front generalizing place with
  | nil => rfl
  | cons step front inner =>
      rw [List.cons_append, placeFrom?, placeFrom?]
      cases childPlace? schema place step with
      | none => rfl
      | some child => exact inner child

theorem placeFrom?_shaped {path : List Step} (shaped : Shaped place)
    (found : placeFrom? schema place path = some child) : Shaped child := by
  induction path generalizing place with
  | nil =>
      cases found
      exact shaped
  | cons step path inner =>
      obtain ⟨next, steps, further⟩ := Option.bind_eq_some_iff.mp found
      exact inner (childPlace?_eq_some_iff.mp steps).shaped further

theorem placeFrom?_mem_paths {path : List Step}
    (found : placeFrom? schema place path = some child) : path ∈ place.value.paths := by
  induction path generalizing place with
  | nil => exact Json.nil_mem_paths place.value
  | cons step path inner =>
      obtain ⟨next, steps, further⟩ := Option.bind_eq_some_iff.mp found
      exact (childPlace?_eq_some_iff.mp steps).mem_paths (inner further)

/-- No place on the way to a place is opaque. -/
theorem placeFrom?_unhidden {path above : List Step} (shaped : Shaped place)
    (found : placeFrom? schema place path = some child) (reaches : above <+: path)
    (proper : above ≠ path) :
    ∃ between, placeFrom? schema place above = some between ∧ between.shape ≠ .opaqueValue := by
  obtain ⟨rest, rfl⟩ := reaches
  rw [placeFrom?_append] at found
  obtain ⟨between, reached, further⟩ := Option.bind_eq_some_iff.mp found
  cases rest with
  | nil => exact absurd (List.append_nil above).symm proper
  | cons step rest =>
      obtain ⟨next, steps, _⟩ := Option.bind_eq_some_iff.mp further
      exact ⟨between, reached,
        (childPlace?_eq_some_iff.mp steps).visible (placeFrom?_shaped shaped reached)⟩

/-- A path that leads to a place leads to a visible one. -/
theorem visible_of_placeAt? {document : Json} {path : List Step}
    (found : placeAt? schema document path = some place) : Visible schema document path := by
  obtain ⟨root, resolved, further⟩ := Option.bind_eq_some_iff.mp found
  obtain ⟨shaped, value⟩ := context_shaped (ok_of_toOption resolved)
  constructor
  · exact value ▸ placeFrom?_mem_paths further
  · intro above reaches proper
    obtain ⟨between, reached, visible⟩ := placeFrom?_unhidden shaped further reaches proper
    exact ⟨between, Option.bind_eq_some_iff.mpr ⟨root, resolved, reached⟩, visible⟩

end Walk

end Pipewright
