import Pipewright.Proofs.Json.Pointers
import Pipewright.Proofs.Resolution.Applicability
import Pipewright.Proofs.Walk.FullWalk

/-!
# What observers are given

Whatever an observer answers, and also on a walk that fails, every context it is given is
one of the outline of the document.  Its node is what resolution comes down to: it refers to
no other node, accepts the value and resolves to itself.  Its path leads from the root to its
value, and so does its pointer, which no other place has.
-/

namespace Pipewright

/-! ## Nodes that resolution finds -/

namespace Node

/-- The node does not say what it says by way of other nodes. -/
structure IsPlain (node : Node) : Prop where
  reference : node.reference = none
  oneOf : node.oneOf = []
  anyOf : node.anyOf = []
  allOf : node.allOf = []

theorem isPlain_overlay (lower upper : Node) : (lower.overlay upper).IsPlain :=
  ⟨rfl, rfl, rfl, rfl⟩

theorem IsPlain.isUnion {node : Node} (plain : node.IsPlain) : node.isUnion = false := by
  rw [Node.isUnion, plain.oneOf, plain.anyOf]
  rfl

end Node

namespace Schema

variable {schema : Schema} {value : Json} {stack : List String}

theorem reference_of_follow {node target : Node} {inner : List String}
    (followed : schema.follow stack node = .ok (some (target, inner))) :
    target.reference = none := by
  fun_induction follow schema stack node with
  | case1 stack node arrived => cases followed; exact arrived
  | case2 stack node reference _ _ next _ step => exact step followed
  | case3 => cases followed
  | case4 => cases followed

/-- Without alternatives, what is composed of a node that is no reference is plain. -/
theorem composed_isPlain {node merged : Node} (noReference : node.reference = none)
    (single : node.isUnion = false)
    (composes : schema.composed value stack node = .ok merged) : merged.IsPlain := by
  simp only [Node.isUnion, Bool.or_eq_false_iff, Bool.not_eq_false', List.isEmpty_iff] at single
  by_cases noBranches : node.allOf = []
  · rw [composed_of_plain noBranches] at composes
    cases composes
    exact ⟨noReference, single.1, single.2, noBranches⟩
  · rw [composed_of_branches noBranches] at composes
    cases merges : schema.mergeBranches value stack node.base node.allOf with
    | error cycle =>
        rw [merges] at composes
        cases composes
    | ok result =>
        rw [merges] at composes
        cases composes
        have plain := mergeBranches_keeps Node.IsPlain (fun _ _ => Node.isPlain_overlay _ _)
          (Node.isPlain_overlay node Node.any) merges
        exact ⟨plain.reference, single.1, single.2, plain.allOf⟩

/-- The node that applies to a value is plain. -/
theorem effectiveFrom_isPlain {node found : Node}
    (succeeds : schema.effectiveFrom value stack node = .ok (some found)) : found.IsPlain := by
  obtain ⟨target, inner, merged, followed, composes, chooses⟩ := exists_composed succeeds
  rcases (chosen_cases chooses).2 with ⟨single, rfl⟩ | ⟨branch, rfl⟩
  · rw [composed_isUnion composes] at single
    exact composed_isPlain (reference_of_follow followed) single composes
  · exact Node.isPlain_overlay _ _

/-- The node that applies to a value resolves to itself. -/
theorem effective_again {node found : Node}
    (succeeds : schema.effective value node = .ok (some found)) :
    schema.effective value found = .ok (some found) := by
  have plain := effectiveFrom_isPlain succeeds
  rw [effective_of_plain plain.reference plain.allOf plain.isUnion,
    keepIfAccepted_of_acceptsType (effectiveFrom_acceptsType succeeds)]

end Schema

/-! ## Contexts -/

/-- The kind of a value. -/
def Json.shape : Json → Shape
  | .object _ => .object
  | .array _ => .array
  | _ => .scalar

/-- The context has no node exactly when it is opaque, and else one that stands for itself and
the shape of its value. -/
structure Context.IsResolved (schema : Schema) (place : Context) : Prop where
  nodeless : place.node = none ↔ place.shape = .opaqueValue
  plain : ∀ node, place.node = some node → node.IsPlain
  accepts : ∀ node, place.node = some node → node.acceptsType place.value = true
  stays : ∀ node, place.node = some node →
    schema.effective place.value node = .ok (some node)
  shaped : ∀ node, place.node = some node → place.shape = place.value.shape

/-- Path, key, parent and pointer of the context say where its value is in the document. -/
structure Context.IsLocated (document : Json) (place : Context) : Prop where
  value : document.valueAt? place.path = some place.value
  key : place.key = place.path.getLast?
  parent : place.parent =
    if place.path = [] then none else document.valueAt? place.path.dropLast
  pointer : document.evaluate? place.pointer = some place.value
  lookup : (∀ position, .index position ∈ place.path → position < UInt64.size) →
    document.pointer? place.pointer = some place.value

namespace Walk

variable {schema : Schema} {document : Json} {place child : Context} {step : Step}

theorem shapeOf_some (node : Node) (value : Json) : shapeOf (some node) value = value.shape := by
  cases value <;> rfl

theorem context_applied {path : List Step} {declared : Option Node} {value : Json}
    {parent : Option Json} {key : Option Step} {node : Node}
    (found : context schema path declared value parent key = .ok place)
    (placed : place.node = some node) :
    ∃ given, schema.effective place.value given = .ok (some node) := by
  cases declared with
  | none => cases found; cases placed
  | some given =>
      refine ⟨given, ?_⟩
      rw [(context_shaped found).2, ← placed]
      exact effective_of_context found

theorem context_isResolved {path : List Step} {declared : Option Node} {value : Json}
    {parent : Option Json} {key : Option Step}
    (found : context schema path declared value parent key = .ok place) :
    place.IsResolved schema := by
  have shaped : Shaped place := (context_shaped found).1
  refine ⟨shaped.opaque_iff.symm, ?plain, ?accepts, ?stays, ?shaped⟩
  case plain =>
    intro node placed
    obtain ⟨given, applied⟩ := context_applied found placed
    exact Schema.effectiveFrom_isPlain applied
  case accepts =>
    intro node placed
    obtain ⟨given, applied⟩ := context_applied found placed
    exact Schema.effectiveFrom_acceptsType applied
  case stays =>
    intro node placed
    obtain ⟨given, applied⟩ := context_applied found placed
    exact Schema.effective_again applied
  case shaped =>
    intro node placed
    rw [shaped, placed, shapeOf_some]

/-! ## Along a path -/

namespace StepsTo

theorem isResolved (steps : StepsTo schema place step child) : child.IsResolved schema := by
  cases steps with
  | key _ _ _ resolved => exact context_isResolved resolved
  | index _ _ _ resolved => exact context_isResolved resolved

theorem child?_eq (steps : StepsTo schema place step child) :
    place.value.child? step = some child.value := by
  cases steps with
  | key _ isObject looked resolved =>
      rw [isObject, (context_shaped resolved).2]
      exact looked
  | index _ isArray looked resolved =>
      rw [isArray, (context_shaped resolved).2]
      exact looked

theorem key_eq (steps : StepsTo schema place step child) : child.key = some step := by
  cases steps with
  | key _ _ _ resolved => exact congrArg Context.key (context_eq resolved)
  | index _ _ _ resolved => exact congrArg Context.key (context_eq resolved)

theorem parent_eq (steps : StepsTo schema place step child) :
    child.parent = some place.value := by
  cases steps with
  | key _ _ _ resolved => exact congrArg Context.parent (context_eq resolved)
  | index _ _ _ resolved => exact congrArg Context.parent (context_eq resolved)

theorem isLocated (steps : StepsTo schema place step child)
    (located : place.IsLocated document) : child.IsLocated document := by
  have value : document.valueAt? child.path = some child.value := by
    rw [steps.path_eq, Json.valueAt?_append, located.value, Option.bind_some, Json.valueAt?,
      steps.child?_eq]
    rfl
  refine ⟨value, ?_, ?_, Json.evaluate?_pointerTo value,
    fun fits => Json.pointer?_pointerTo fits value⟩
  · rw [steps.key_eq, steps.path_eq, List.getLast?_concat]
  · rw [steps.parent_eq, steps.path_eq, if_neg (by simp), List.dropLast_concat, located.value]

end StepsTo

/-- What holds of a place and is kept by steps holds of every place that a path leads to. -/
theorem placeFrom?_keeps {holds : Context → Prop}
    (keeps : ∀ {place step child}, StepsTo schema place step child → holds place → holds child)
    {path : List Step} (start : holds place) (found : placeFrom? schema place path = some child) :
    holds child := by
  induction path generalizing place with
  | nil => cases found; exact start
  | cons step path inner =>
      obtain ⟨next, steps, further⟩ := Option.bind_eq_some_iff.mp found
      exact inner (keeps (childPlace?_eq_some_iff.mp steps) start) further

theorem root_isLocated
    (root : context schema [] (some schema.root) document none none = .ok place) :
    place.IsLocated document := by
  have path : place.path = [] := context_path root
  have value : document.valueAt? place.path = some place.value := by
    rw [path, (context_shaped root).2]
    rfl
  refine ⟨value, ?_, ?_, Json.evaluate?_pointerTo value,
    fun fits => Json.pointer?_pointerTo fits value⟩
  · rw [path]
    exact congrArg Context.key (context_eq root)
  · rw [if_pos path]
    exact congrArg Context.parent (context_eq root)

/-- A place that a path of the document leads to is resolved and located. -/
theorem placeAt?_resolved_and_located {path : List Step}
    (found : placeAt? schema document path = some place) :
    place.IsResolved schema ∧ place.IsLocated document := by
  obtain ⟨root, resolved, further⟩ := Option.bind_eq_some_iff.mp found
  have start := ok_of_toOption resolved
  exact ⟨placeFrom?_keeps (fun steps _ => steps.isResolved) (context_isResolved start) further,
    placeFrom?_keeps (fun steps => steps.isLocated) (root_isLocated start) further⟩

/-! ## What is heard -/

variable {State : Type} {observer : Observer State} {record : List Heard} {events : List Event}

/-- A record went on with some of the events, in their order. -/
def Hears (outcome : Outcome (State × List Heard)) (record : List Heard)
    (events : List Event) : Prop :=
  ∃ more, outcome.1.2 = record ++ more ∧ (more.map (·.event)).Sublist events

namespace Hears

theorem behind {outcome : Outcome (State × List Heard)} (said : Heard)
    (hears : Hears outcome (record ++ [said]) events) :
    Hears outcome record (said.event :: events) := by
  obtain ⟨more, recorded, among⟩ := hears
  refine ⟨said :: more, ?_, ?_⟩
  · rw [recorded, List.append_assoc, List.singleton_append]
  · exact among.cons_cons said.event

theorem descend {state : State} {flow : Flow}
    {below : State × List Heard → Outcome (State × List Heard)}
    (hears : ∀ state record, Hears (below (state, record)) record events) :
    Hears (Walk.descend ((state, record), flow) below) record events := by
  cases flow with
  | «continue» => exact hears state record
  | stop => exact ⟨[], (List.append_nil _).symm, List.nil_sublist _⟩

theorem andThen {outcome : Outcome (State × List Heard)} {front back : List Event}
    {next : State × List Heard → Outcome (State × List Heard)}
    (first : Hears outcome record front)
    (second : ∀ state record, Hears (next (state, record)) record back) :
    Hears (Walk.andThen outcome next) record (front ++ back) := by
  obtain ⟨more, recorded, among⟩ := first
  obtain ⟨⟨state, kept⟩, result⟩ := outcome
  cases recorded
  cases result with
  | error cycle => exact ⟨more, rfl, among.trans (List.sublist_append_left front back)⟩
  | ok _ =>
      obtain ⟨later, recorded', among'⟩ := second state (record ++ more)
      refine ⟨more ++ later, ?_, ?_⟩
      · rw [← List.append_assoc]
        exact recorded'
      · rw [List.map_append]
        exact among.append among'

end Hears

mutual

/-- An observer hears events of the outline and no others, in their order. -/
theorem Outline.run_hears (outline : Outline) (state : State) (record : List Heard) :
    Hears (outline.run observer.recorded (state, record)) record outline.events := by
  match outline with
  | .node place below =>
      rw [Outline.run, recorded_enter]
      refine Hears.behind _ (Hears.andThen (Hears.descend ?_) ?_)
      · exact below.run_hears
      · exact fun state record => ⟨[⟨.leave place, .continue⟩], rfl, .refl _⟩

theorem Branches.run_hears (branches : Branches) (state : State) (record : List Heard) :
    Hears (branches.run observer.recorded (state, record)) record branches.events := by
  match branches with
  | .finished => exact ⟨[], (List.append_nil _).symm, .refl _⟩
  | .failed _ => exact ⟨[], (List.append_nil _).symm, .refl _⟩
  | .branch announcement first rest =>
      rw [Branches.run, announce_recorded]
      refine Hears.behind _ (Hears.andThen (Hears.descend ?_) ?_)
      · exact first.run_hears
      · exact rest.run_hears

end

variable {outline : Outline} {state : State}

theorem heard_of_unresolved {cycle : CyclicReference}
    (failed : documentOutline schema document = .error cycle) :
    heard document schema observer state = [] := by
  rw [heard, walk_eq_run, failed]

/-- What an observer hears of a document are events of its outline. -/
theorem heard_sublist (found : documentOutline schema document = .ok outline) :
    ((heard document schema observer state).map (·.event)).Sublist outline.events := by
  obtain ⟨more, recorded, among⟩ :
      Hears (outline.run observer.recorded (state, [])) [] outline.events :=
    outline.run_hears state []
  rw [heard, walk_eq_run, found]
  simp only [recorded, List.nil_append]
  exact among

theorem heard_placed (distinct : document.KeysDistinct) {entry : Heard}
    (listed : entry ∈ heard document schema observer state) :
    placeAt? schema document entry.event.path = some entry.event.place := by
  cases found : documentOutline schema document with
  | error cycle =>
      rw [heard_of_unresolved found] at listed
      cases listed
  | ok outline =>
      exact documentOutline_placed distinct found _
        ((heard_sublist found).subset (List.mem_map_of_mem listed))

theorem Event.path_of_entered? {event : Event} {path : List Step}
    (entered : event.entered? = some path) : event.path = path := by
  cases event with
  | enter place => exact Option.some_inj.mp entered
  | property | item | leave => cases entered

/-- No place is entered twice. -/
theorem heard_entered_nodup (distinct : document.KeysDistinct) :
    ((heard document schema observer state).filterMap (·.event.entered?)).Nodup := by
  cases found : documentOutline schema document with
  | error cycle =>
      rw [heard_of_unresolved found]
      exact List.nodup_nil
  | ok outline =>
      have among : ((heard document schema observer state).map (·.event)).Sublist
        outline.events := heard_sublist found
      have entered := among.filterMap Event.entered?
      rw [List.filterMap_map] at entered
      exact (entered.trans (documentOutline_inOrder found)).nodup (Json.paths_nodup distinct)

end Walk

open Walk

/-- Every context that an observer is given on a walk, whatever its answers and also if the
walk fails, is resolved and located; contexts with one pointer are one, and places that are
entered have different pointers. -/
theorem contexts_resolved_and_located {State : Type} {schema : Schema} {document : Json}
    {observer : Observer State} {state : State} (distinct : document.KeysDistinct) :
    (∀ entry ∈ heard document schema observer state,
      entry.event.place.IsResolved schema ∧ entry.event.place.IsLocated document) ∧
    (∀ entry ∈ heard document schema observer state,
      ∀ other ∈ heard document schema observer state,
        entry.event.place.pointer = other.event.place.pointer →
          entry.event.place = other.event.place) ∧
    (((heard document schema observer state).filterMap
      (·.event.entered?)).map pointerTo).Nodup := by
  have placed : ∀ entry ∈ heard document schema observer state,
      placeAt? schema document entry.event.path = some entry.event.place :=
    fun entry listed => heard_placed distinct listed
  have located : ∀ entry ∈ heard document schema observer state,
      document.valueAt? entry.event.path = some entry.event.place.value :=
    fun entry listed => (placeAt?_resolved_and_located (placed entry listed)).2.value
  refine ⟨?_, ?_, ?_⟩
  · exact fun entry listed => placeAt?_resolved_and_located (placed entry listed)
  · intro entry listed other listed' samePointer
    have samePath : entry.event.path = other.event.path :=
      Json.eq_of_pointerTo_eq (located entry listed) (located other listed') samePointer
    refine Option.some_inj.mp ?_
    rw [← placed entry listed, samePath, placed other listed']
  · refine (heard_entered_nodup distinct).map_on ?_
    intro path entered path' entered' samePointer
    obtain ⟨entry, listed, isPath⟩ := List.mem_filterMap.mp entered
    obtain ⟨other, listed', isPath'⟩ := List.mem_filterMap.mp entered'
    cases Event.path_of_entered? isPath
    cases Event.path_of_entered? isPath'
    exact Json.eq_of_pointerTo_eq (located entry listed) (located other listed') samePointer

/-! ## Keys that look like pointers -/

/-- Keys with a slash, with a tilde and of digits, and the empty key. -/
def awkward : Json :=
  .object [("a/b", .array [.object [("", .boolean true)]]), ("~1", .null), ("0", .string "x")]

def awkwardOutline : Outline :=
  let root : Context := ⟨[], some workflowSchema.root, .object, awkward, none, none⟩
  let list := placeBelow root (.key "a/b") (some Node.any) (.array [.object [("", .boolean true)]])
  let element := placeBelow list (.index 0) (some Node.any) (.object [("", .boolean true)])
  let flag := placeBelow element (.key "") (some Node.any) (.boolean true)
  let tilde := placeBelow root (.key "~1") (some Node.any) .null
  let zero := placeBelow root (.key "0") (some Node.any) (.string "x")
  .node root
    (.branch .property (.node list (.branch (.item 0) (.node element
        (.branch .property (.node flag .finished) .finished)) .finished))
      (.branch .property (.node tilde .finished)
        (.branch .property (.node zero .finished) .finished)))

theorem documentOutline_awkward :
    documentOutline workflowSchema awkward = .ok awkwardOutline := by
  simp [documentOutline, context, Except.map, Schema.effective_of_plain, workflowSchema,
    Node.any, Node.nothing, Node.isUnion, Schema.keepIfAccepted, Node.acceptsType, outline,
    branches, memberBranches, itemBranches, memberContext, itemContext, awkward,
    Node.propertyNode?, Node.patternNode?, Node.itemNode, shapeOf, List.lookup_cons,
    List.lookup_nil]
  rfl

theorem contexts_resolved_and_located_under_awkward_keys :
    let record := heard awkward workflowSchema (Observer.silent Unit) ()
    awkward.KeysDistinct ∧
      (∀ entry ∈ record, awkward.evaluate? entry.event.place.pointer =
        some entry.event.place.value) ∧
      (record.filterMap (·.event.entered?)).map pointerTo =
        ["", "/a~1b", "/a~1b/0", "/a~1b/0/", "/~01", "/0"] := by
  intro record
  have distinct : awkward.KeysDistinct := by
    simp [awkward, Json.KeysDistinct, Json.MemberKeysDistinct, Json.ItemKeysDistinct]
  have located := (contexts_resolved_and_located distinct :
    (∀ entry ∈ record, _) ∧ _).1
  refine ⟨distinct, fun entry listed => (located entry listed).2.pointer, ?_⟩
  unfold record heard
  rw [walk_eq_run, documentOutline_awkward]
  decide +kernel

end Pipewright
