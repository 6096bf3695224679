import Mathlib.Data.List.Forall2
import Pipewright.Proofs.Resolution.Indifference
import Pipewright.Proofs.Walk.Pruning

/-!
# Replaced values stay local

A schema without enumerations tells the values at a place apart by their types and keys
alone.  Where a value is replaced, every value above it keeps both, so the nodes that apply
there stay, and those that apply beside the replaced value with them.  Of the rest of the
document, observers hear the same.
-/

namespace Pipewright

namespace Walk

/-! ## Sightings -/

/-- What an event says happens at its place. -/
inductive Event.Kind where
  | enter
  | property
  | item (position : Nat)
  | leave
deriving DecidableEq, Repr

def Event.kind : Event → Event.Kind
  | .enter _ => .enter
  | .property _ => .property
  | .item _ position => .item position
  | .leave _ => .leave

/-- What an event tells without the values of the document. -/
structure Sighting where
  kind : Event.Kind
  pointer : String
  shape : Shape
  node : Option Node

def Event.sighting (event : Event) : Sighting :=
  ⟨event.kind, event.place.pointer, event.place.shape, event.place.node⟩

/-- The sightings of the events that are neither at the target nor below it. -/
def seenOutside (target : List Step) (events : List Event) : List Sighting :=
  (events.filter fun event => !target.isPrefixOf event.path).map Event.sighting

section Sightings

variable {target : List Step} {event : Event} {events : List Event}

theorem seenOutside_append (front back : List Event) :
    seenOutside target (front ++ back) = seenOutside target front ++ seenOutside target back := by
  rw [seenOutside, List.filter_append, List.map_append]
  rfl

theorem seenOutside_cons_of_below (below : target <+: event.path) :
    seenOutside target (event :: events) = seenOutside target events := by
  have hidden : target.isPrefixOf event.path = true := List.isPrefixOf_iff_prefix.mpr below
  simp only [seenOutside, List.filter_cons, hidden, Bool.not_true, Bool.false_eq_true, if_false]

theorem seenOutside_cons_of_outside (outside : ¬target <+: event.path) :
    seenOutside target (event :: events) = event.sighting :: seenOutside target events := by
  have seen : target.isPrefixOf event.path = false := by
    rwa [← Bool.not_eq_true, List.isPrefixOf_iff_prefix]
  simp only [seenOutside, List.filter_cons, seen, Bool.not_false, if_true, List.map_cons]

theorem seenOutside_eq_nil (below : ∀ event ∈ events, target <+: event.path) :
    seenOutside target events = [] := by
  induction events with
  | nil => rfl
  | cons event events inner =>
      obtain ⟨first, rest⟩ := List.forall_mem_cons.mp below
      rw [seenOutside_cons_of_below first, inner rest]

theorem seenOutside_cons_congr {event' : Event} {events' : List Event}
    (samePath : event'.path = event.path)
    (same : ¬target <+: event.path → event'.sighting = event.sighting)
    (others : seenOutside target events' = seenOutside target events) :
    seenOutside target (event' :: events') = seenOutside target (event :: events) := by
  by_cases below : target <+: event.path
  · rw [seenOutside_cons_of_below below, seenOutside_cons_of_below (samePath ▸ below), others]
  · rw [seenOutside_cons_of_outside below, seenOutside_cons_of_outside (samePath ▸ below),
      same below, others]

end Sightings

/-! ## Places that look alike -/

variable {schema : Schema} {target : List Step}

/-- The places are at the same path, and the same node applies to both. -/
structure Alike (place place' : Context) : Prop where
  path : place'.path = place.path
  node : place'.node = place.node
  shape : place'.shape = place.shape

theorem Alike.sighting_eq {event event' : Event} (alike : Alike event.place event'.place)
    (sameKind : event'.kind = event.kind) : event'.sighting = event.sighting := by
  rw [Event.sighting, Event.sighting, Context.pointer, Context.pointer, sameKind, alike.path,
    alike.shape, alike.node]

theorem Alike.sighting_announcement {place place' : Context} (alike : Alike place place')
    (announcement : Announcement) :
    (announcement.event place').sighting = (announcement.event place).sighting := by
  cases announcement <;> exact Alike.sighting_eq alike rfl

/-- Both outlines are at the same path, and outside the target they look alike. -/
structure Outline.AlikeOutside (target : List Step) (outline outline' : Outline) : Prop where
  path : outline'.place.path = outline.place.path
  place : ¬target <+: outline.place.path → Alike outline.place outline'.place
  events : seenOutside target outline'.events = seenOutside target outline.events

theorem Outline.AlikeOutside.of_below {outline outline' : Outline} (nested : outline.Nested)
    (nested' : outline'.Nested) (samePath : outline'.place.path = outline.place.path)
    (below : target <+: outline.place.path) : outline.AlikeOutside target outline' where
  path := samePath
  place outside := absurd below outside
  events := by
    rw [seenOutside_eq_nil, seenOutside_eq_nil]
    · exact fun event among => below.trans (prefix_of_mem_events nested event among)
    · intro event among
      exact (samePath ▸ below).trans (prefix_of_mem_events nested' event among)

theorem Outline.AlikeOutside.of_alike {place place' : Context} {below below' : Branches}
    (alike : Alike place place')
    (same : seenOutside target below'.events = seenOutside target below.events) :
    (Outline.node place below).AlikeOutside target (Outline.node place' below') where
  path := alike.path
  place _ := alike
  events := by
    refine seenOutside_cons_congr alike.path (fun _ => Alike.sighting_eq alike rfl) ?_
    rw [seenOutside_append, seenOutside_append, same]
    congr 1
    exact seenOutside_cons_congr alike.path (fun _ => Alike.sighting_eq alike rfl) rfl

theorem seenOutside_branch {announcement : Announcement} {first first' : Outline}
    {rest rest' : Branches} (alike : first.AlikeOutside target first')
    (others : seenOutside target rest'.events = seenOutside target rest.events) :
    seenOutside target (Branches.branch announcement first' rest').events =
      seenOutside target (Branches.branch announcement first rest).events := by
  refine seenOutside_cons_congr ?_ ?_ ?_
  · rw [Announcement.event_path, Announcement.event_path, alike.path]
  · rw [Announcement.event_path]
    exact fun outside => (alike.place outside).sighting_announcement announcement
  · rw [seenOutside_append, seenOutside_append, alike.events, others]

/-! ## Values that look alike -/

/-- Where both values can be walked below a path, the walks are alike outside the target. -/
structure AlikeOutside (schema : Schema) (target path : List Step) (declared : Option Node)
    (value value' : Json) : Prop where
  outlines : ∀ {parent parent' : Option Json} {key : Option Step} {place place' : Context},
    context schema path declared value parent key = .ok place →
    context schema path declared value' parent' key = .ok place' →
    (branches schema place value).check = .ok () →
    (branches schema place' value').check = .ok () →
    (outline schema place value).AlikeOutside target (outline schema place' value')

variable {path : List Step} {declared : Option Node} {value value' : Json}

theorem AlikeOutside.of_below (below : target <+: path) :
    AlikeOutside schema target path declared value value' := by
  constructor
  intro parent parent' key place place' found found' _ _
  have atPath : place.path = path := context_path found
  have atPath' : place'.path = path := context_path found'
  have samePath : place'.path = place.path := atPath'.trans atPath.symm
  exact .of_below (outline_nested schema place value) (outline_nested schema place' value')
    samePath (atPath.symm ▸ below)

/-! ### The value above -/

theorem memberBranches_parent (container : Context) (parent : Option Json) (node : Node)
    (members : Members) :
    memberBranches schema { container with parent := parent } node members =
      memberBranches schema container node members := by
  induction members with
  | nil => rfl
  | cons member rest inner =>
      obtain ⟨key, value⟩ := member
      rw [memberBranches, memberBranches, inner]
      rfl

theorem itemBranches_parent (container : Context) (parent : Option Json) (node : Node)
    (position : Nat) (items : List Json) :
    itemBranches schema { container with parent := parent } node position items =
      itemBranches schema container node position items := by
  induction items generalizing position with
  | nil => rfl
  | cons item rest inner =>
      rw [itemBranches, itemBranches, inner]
      rfl

/-- What is below a place does not depend on what is above it. -/
theorem branches_parent (place : Context) (parent : Option Json) (value : Json) :
    branches schema { place with parent := parent } value = branches schema place value := by
  cases value with
  | object members => simp only [branches, memberBranches_parent]
  | array items => simp only [branches, itemBranches_parent]
  | null | boolean | number | string => rfl

theorem context_parent (path : List Step) (declared : Option Node) (value : Json)
    (parent parent' : Option Json) (key : Option Step) :
    context schema path declared value parent' key =
      (context schema path declared value parent key).map ({ · with parent := parent' }) := by
  cases declared with
  | none => rfl
  | some node =>
      simp only [context]
      cases schema.effective value node <;> rfl

theorem AlikeOutside.refl (value : Json) :
    AlikeOutside schema target path declared value value := by
  constructor
  intro parent parent' key place place' found found' _ _
  rw [context_parent path declared value parent, found] at found'
  obtain rfl : { place with parent := parent' } = place' := Except.ok.inj found'
  refine .of_alike ⟨rfl, rfl, rfl⟩ ?_
  rw [branches_parent]

/-! ### Objects and arrays -/

theorem branches_object {place : Context} {node : Node} (placed : place.node = some node)
    (members : Members) :
    branches schema place (.object members) = memberBranches schema place node members := by
  rw [branches, placed]

theorem branches_array {place : Context} {node : Node} (placed : place.node = some node)
    (items : List Json) :
    branches schema place (.array items) = itemBranches schema place node 0 items := by
  rw [branches, placed]

/-- The members have the same key, and their values look alike. -/
def MembersAlike (schema : Schema) (target path : List Step) (node : Node)
    (member member' : String × Json) : Prop :=
  member'.1 = member.1 ∧ AlikeOutside schema target (path ++ [.key member.1])
    (node.propertyNode? member.1) member.2 member'.2

theorem seenOutside_memberBranches {container container' : Context} {node : Node}
    {members members' : Members} (samePath : container'.path = container.path)
    (alike : List.Forall₂ (MembersAlike schema target container.path node) members members')
    (checks : (memberBranches schema container node members).check = .ok ())
    (checks' : (memberBranches schema container' node members').check = .ok ()) :
    seenOutside target (memberBranches schema container' node members').events =
      seenOutside target (memberBranches schema container node members).events := by
  induction alike with
  | nil => rfl
  | @cons member member' rest rest' first _ inner =>
      obtain ⟨key, value⟩ := member
      obtain ⟨key', value'⟩ := member'
      obtain ⟨rfl, alikeFirst⟩ := first
      obtain ⟨place, found, checksFirst, checksRest, split⟩ := of_check_memberBranches checks
      obtain ⟨place', found', checksFirst', checksRest', split'⟩ := of_check_memberBranches checks'
      rw [split, split']
      rw [memberContext, samePath] at found'
      exact seenOutside_branch (alikeFirst.outlines found found' checksFirst checksFirst')
        (inner checksRest checksRest')

theorem seenOutside_itemBranches {container container' : Context} {node : Node}
    {items items' : List Json} {position : Nat} (samePath : container'.path = container.path)
    (sameLength : items'.length = items.length)
    (alike : ∀ later value value', items[later]? = some value → items'[later]? = some value' →
      AlikeOutside schema target (container.path ++ [.index (position + later)])
        (some node.itemNode) value value')
    (checks : (itemBranches schema container node position items).check = .ok ())
    (checks' : (itemBranches schema container' node position items').check = .ok ()) :
    seenOutside target (itemBranches schema container' node position items').events =
      seenOutside target (itemBranches schema container node position items).events := by
  match items, items', sameLength with
  | [], [], _ => rfl
  | value :: rest, value' :: rest', sameLength =>
      obtain ⟨place, found, checksFirst, checksRest, split⟩ := of_check_itemBranches checks
      obtain ⟨place', found', checksFirst', checksRest', split'⟩ := of_check_itemBranches checks'
      have alikeFirst := alike 0 value value' rfl rfl
      have alikeRest : ∀ later value value', rest[later]? = some value →
          rest'[later]? = some value' →
          AlikeOutside schema target (container.path ++ [.index (position + 1 + later)])
            (some node.itemNode) value value' := by
        intro later value value' looked looked'
        rw [Nat.add_assoc, Nat.add_comm 1 later]
        exact alike (later + 1) value value' looked looked'
      rw [split, split']
      rw [itemContext, samePath] at found'
      exact seenOutside_branch (alikeFirst.outlines found found' checksFirst checksFirst')
        (seenOutside_itemBranches samePath (Nat.succ.inj sameLength) alikeRest checksRest
          checksRest')

/-! ### Values with the same keys -/

theorem shapeOf_sameKeys (sameKeys : Json.SameKeys value value') (node : Option Node) :
    shapeOf node value' = shapeOf node value := by
  cases sameKeys <;> cases node <;> rfl

/-- A node that applies describes members and elements without enumerations. -/
theorem describesBy_of_context (unenumerated : schema.Unenumerated)
    (inside : ∀ given, declared = some given → given.Unenumerated) {parent : Option Json}
    {key : Option Step} {place : Context}
    (found : context schema path declared value parent key = .ok place) {node : Node}
    (placed : place.node = some node) : node.DescribesBy Node.Unenumerated := by
  cases declared with
  | none =>
      cases found
      cases placed
  | some given =>
      have applied : schema.effective value given = .ok (some node) :=
        placed ▸ effective_of_context found
      exact unenumerated.isFamily.effective (inside given rfl) applied

theorem alike_of_sameKeys (unenumerated : schema.Unenumerated)
    (sameKeys : Json.SameKeys value value')
    (inside : ∀ given, declared = some given → given.Unenumerated)
    {parent parent' : Option Json} {key : Option Step} {place place' : Context}
    (found : context schema path declared value parent key = .ok place)
    (found' : context schema path declared value' parent' key = .ok place') :
    Alike place place' := by
  have samePath : place'.path = place.path := (context_path found').trans (context_path found).symm
  have sameNode : place'.node = place.node := by
    cases declared with
    | none =>
        cases found
        cases found'
        rfl
    | some given =>
        have resolved : schema.effective value' given = schema.effective value given :=
          Schema.effective_eq_in_family unenumerated.isFamily sameKeys.indifferentIn
            (inside given rfl)
        rw [effective_of_context found, effective_of_context found'] at resolved
        exact Except.ok.inj resolved
  have shaped : place.shape = shapeOf place.node value := congrArg Context.shape (context_eq found)
  have shaped' : place'.shape = shapeOf place'.node value' :=
    congrArg Context.shape (context_eq found')
  refine ⟨samePath, sameNode, ?_⟩
  rw [shaped, shaped', sameNode, shapeOf_sameKeys sameKeys]

/-- Values that list the same keys look alike where their members and elements do. -/
theorem AlikeOutside.of_sameKeys (unenumerated : schema.Unenumerated)
    (sameKeys : Json.SameKeys value value')
    (inside : ∀ given, declared = some given → given.Unenumerated)
    (below : ∀ {place place' : Context} {node : Node}, place.path = path →
      place'.path = place.path → place.node = some node → place'.node = some node →
      node.DescribesBy Node.Unenumerated → (branches schema place value).check = .ok () →
      (branches schema place' value').check = .ok () →
      seenOutside target (branches schema place' value').events =
        seenOutside target (branches schema place value).events) :
    AlikeOutside schema target path declared value value' := by
  constructor
  intro parent parent' key place place' found found' checks checks'
  have alike := alike_of_sameKeys unenumerated sameKeys inside found found'
  refine .of_alike alike ?_
  cases placed : place.node with
  | none =>
      have placed' : place'.node = none := alike.node.trans placed
      cases sameKeys <;> rw [branches, branches, placed, placed']
  | some node =>
      exact below (context_path found) alike.path placed (alike.node.trans placed)
        (describesBy_of_context unenumerated inside found placed) checks checks'

/-! ## Replaced values -/

/-- A value looks the same outside a location when the value at the location is replaced. -/
theorem alikeOutside_replaceAt (unenumerated : schema.Unenumerated) (replacement : Json)
    (location : List Step) {path : List Step} {declared : Option Node} (value : Json)
    (inside : ∀ given, declared = some given → given.Unenumerated) :
    AlikeOutside schema (path ++ location) path declared value
      (value.replaceAt location replacement) := by
  -- the location is taken from the value on, and the path grows by the steps that it loses
  induction location generalizing value path declared with
  | nil =>
      rw [List.append_nil]
      exact .of_below List.prefix_rfl
  | cons step rest inner =>
      have behind : path ++ step :: rest = path ++ [step] ++ rest := by
        rw [List.append_assoc, List.singleton_append]
      match value, step with
      | .object members, .key name =>
          rw [Json.replaceAt]
          refine .of_sameKeys unenumerated (.object (Json.keys_changeMember ..)) inside ?_
          intro place place' node atPath samePath placed placed' describes checks checks'
          rw [branches_object placed] at checks ⊢
          rw [branches_object placed'] at checks' ⊢
          refine seenOutside_memberBranches samePath ?_ checks checks'
          rw [Json.changeMember, List.forall₂_map_right_iff, List.forall₂_same, atPath]
          rintro ⟨key, content⟩ _
          split
          · next changed =>
              cases changed
              rw [behind]
              exact ⟨rfl, inner content fun _ => unenumerated.isFamily.propertyNode? describes⟩
          · exact ⟨rfl, .refl content⟩
      | .array items, .index position =>
          rw [Json.replaceAt]
          refine .of_sameKeys unenumerated (.array ..) inside ?_
          intro place place' node atPath samePath placed placed' describes checks checks'
          rw [branches_array placed] at checks ⊢
          rw [branches_array placed'] at checks' ⊢
          refine seenOutside_itemBranches samePath (List.length_mapIdx ..) ?_ checks checks'
          intro later content content' looked looked'
          rw [Json.changeItem, List.getElem?_mapIdx, looked, Option.map_some] at looked'
          obtain rfl := Option.some.inj looked'
          rw [Nat.zero_add, atPath]
          split
          · next changed =>
              cases changed
              have declares : node.itemNode.Unenumerated := unenumerated.isFamily.itemNode describes
              rw [behind]
              exact inner content fun _ same => Option.some.inj same ▸ declares
          · exact .refl content
      | .object _, .index _ | .array _, .key _ => exact .refl _
      | .null, other | .boolean _, other | .number _, other | .string _, other =>
          cases other <;> exact .refl _

/-- The outlines of a document before and after a value is replaced are alike outside its
location, if both can be walked whole. -/
theorem documentOutline_replaceAt (unenumerated : schema.Unenumerated) {document : Json}
    {location : List Step} {replacement : Json} {outline outline' : Outline}
    (found : documentOutline schema document = .ok outline) (checks : outline.check = .ok ())
    (found' : documentOutline schema (document.replaceAt location replacement) = .ok outline')
    (checks' : outline'.check = .ok ()) :
    seenOutside location outline'.events = seenOutside location outline.events := by
  obtain ⟨place, root, rfl⟩ := documentOutline_eq found
  obtain ⟨place', root', rfl⟩ := documentOutline_eq found'
  have inside : ∀ given, some schema.root = some given → given.Unenumerated :=
    fun _ same => Option.some.inj same ▸ unenumerated.root
  have alike : AlikeOutside schema ([] ++ location) [] (some schema.root) document _ :=
    alikeOutside_replaceAt unenumerated replacement location document inside
  exact (alike.outlines root root' checks checks').events

end Walk

open Walk

/-- Where a value is replaced, an observer that always goes on sees the same of the rest of the
document, in the same order, if no node of the schema lists the values it admits and both walks
succeed. -/
theorem replaced_value_stays_local {State : Type} {schema : Schema}
    (unenumerated : schema.Unenumerated) {document replacement : Json} {location : List Step}
    (distinct : document.KeysDistinct) (distinct' : replacement.KeysDistinct)
    {observer : Observer State} {state : State}
    (succeeded : (walk document schema observer state).2 = .ok ())
    (unstopped : ∀ entry ∈ heard document schema observer state, entry.answer = .continue)
    (succeeded' : (walk (document.replaceAt location replacement) schema observer state).2 =
      .ok ())
    (unstopped' : ∀ entry ∈ heard (document.replaceAt location replacement) schema observer state,
      entry.answer = .continue) :
    seenOutside location
        ((heard (document.replaceAt location replacement) schema observer state).map (·.event)) =
      seenOutside location ((heard document schema observer state).map (·.event)) := by
  have distinctReplaced : (document.replaceAt location replacement).KeysDistinct :=
    Json.keysDistinct_replaceAt distinct' location distinct
  obtain ⟨outline, found, checks⟩ := exists_documentOutline succeeded unstopped
  obtain ⟨outline', found', checks'⟩ := exists_documentOutline succeeded' unstopped'
  rw [heard_eq_events distinct found checks unstopped,
    heard_eq_events distinctReplaced found' checks' unstopped']
  exact documentOutline_replaceAt unenumerated found checks found' checks'

theorem workflowSchema_unenumerated : workflowSchema.Unenumerated := by
  have root : workflowSchema.root.children = [Node.nothing] := rfl
  have options : Node.nothing.children = [] := rfl
  have nodes : workflowSchema.nodes = [workflowSchema.root, Node.nothing] := by
    rw [Schema.nodes, Node.preorder_eq, root, List.flatMap_singleton, Node.preorder_eq, options]
    rfl
  intro node listed
  rw [nodes] at listed
  rcases List.mem_pair.mp listed with rfl | rfl <;> rfl

/-- The workflow with its only trigger named instead of listed. -/
def workflowOnPush : Json :=
  workflow.replaceAt [.key "on"] (.string "push")

theorem checkDocument_workflowOnPush : checkDocument workflowOnPush workflowSchema = .ok () := by
  simp [checkDocument_eq, documentOutline, context, Except.map, Schema.effective_of_plain,
    workflowSchema, Node.any, Node.nothing, Node.isUnion, Schema.keepIfAccepted,
    Node.acceptsType, outline, branches, memberBranches, memberContext, workflowOnPush, workflow,
    Json.replaceAt, Json.changeMember, Node.propertyNode?, Node.patternNode?, shapeOf,
    List.lookup_cons, List.lookup_nil, Outline.check, Branches.check]

/-- Beside the triggers nothing looks different in a workflow whose triggers are no list. -/
theorem replaced_triggers_stay_local :
    let observer := Observer.silent Unit
    workflowSchema.Unenumerated ∧ workflow.KeysDistinct ∧ (Json.string "push").KeysDistinct ∧
      (walk workflow workflowSchema observer ()).2 = .ok () ∧
      (∀ entry ∈ heard workflow workflowSchema observer (), entry.answer = .continue) ∧
      (walk workflowOnPush workflowSchema observer ()).2 = .ok () ∧
      (∀ entry ∈ heard workflowOnPush workflowSchema observer (), entry.answer = .continue) ∧
      seenOutside [.key "on"] (fullWalk workflowOnPush workflowSchema) =
        seenOutside [.key "on"] (fullWalk workflow workflowSchema) ∧
      (seenOutside [.key "on"] (fullWalk workflow workflowSchema)).map
        (fun seen => (seen.kind, seen.shape)) =
        [(.enter, .object), (.property, .object), (.enter, .object), (.property, .scalar),
          (.enter, .scalar), (.leave, .scalar), (.leave, .object), (.property, .opaqueValue),
          (.enter, .opaqueValue), (.leave, .opaqueValue), (.leave, .object)] := by
  intro observer
  have distinct : (Json.string "push").KeysDistinct := trivial
  have stays := replaced_value_stays_local workflowSchema_unenumerated workflow_distinct distinct
    checkDocument_workflow (answers_of_silent ()) checkDocument_workflowOnPush
    (answers_of_silent ())
  refine ⟨workflowSchema_unenumerated, workflow_distinct, distinct, checkDocument_workflow,
    answers_of_silent (), checkDocument_workflowOnPush, answers_of_silent (), stays, ?_⟩
  unfold fullWalk heard
  rw [walk_eq_run, documentOutline_workflow]
  rfl

end Pipewright
