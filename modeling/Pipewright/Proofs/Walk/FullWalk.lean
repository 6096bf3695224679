import Pipewright.Proofs.Walk.Places
import Pipewright.Proofs.Walk.Pruning

/-!
# Walks of the whole document

An observer that always goes on is led around the document once: to every place that is
not below an opaque one, in the order of the document, each place announced by the one
above it.
-/

namespace Pipewright

namespace Walk

/-- The place that an event enters. -/
def Event.entered? : Event → Option (List Step)
  | .enter place => some place.path
  | _ => none

/-- The place that an event leaves. -/
def Event.left? : Event → Option (List Step)
  | .leave place => some place.path
  | _ => none

/-- The place that an event announces. -/
def Event.announced? : Event → Option (List Step)
  | .property place => some place.path
  | .item place _ => some place.path
  | _ => none

/-- The event announces the place as what it is of the value above it: a member of an
object, or an element of an array under its own position. -/
inductive Announces (place : Context) : Event → Prop where
  | property {above : List Step} {key : String} {members : Members} :
      place.path = above ++ [.key key] → place.parent = some (.object members) →
        members.lookup key = some place.value → Announces place (.property place)
  | item {above : List Step} {position : Nat} {items : List Json} :
      place.path = above ++ [.index position] → place.parent = some (.array items) →
        items[position]? = some place.value → Announces place (.item place position)

/-- Events that lead around a document. -/
structure Tours (schema : Schema) (document : Json) (events : List Event) : Prop where
  placed : ∀ event ∈ events, Visible schema document event.path ∧
    placeAt? schema document event.path = some event.place
  entersOnce : ∀ path, Visible schema document path →
    (events.filterMap Event.entered?).count path = 1
  leavesOnce : ∀ path, Visible schema document path →
    (events.filterMap Event.left?).count path = 1
  inOrder : (events.filterMap Event.entered?).Sublist document.paths
  encloses : ∀ place, .enter place ∈ events → Encloses events place
  announced : ∀ place, .enter place ∈ events → place.path ≠ [] →
    (events.filterMap Event.announced?).count place.path = 1 ∧
      ∃ announcement, Announces place announcement ∧ [announcement, .enter place] <:+: events

variable {schema : Schema}

/-! ## Entering, leaving and announcing -/

theorem Announcement.event_entered? (announcement : Announcement) (place : Context) :
    (announcement.event place).entered? = none := by
  cases announcement <;> rfl

theorem Announcement.event_left? (announcement : Announcement) (place : Context) :
    (announcement.event place).left? = none := by
  cases announcement <;> rfl

theorem Announcement.event_announced? (announcement : Announcement) (place : Context) :
    (announcement.event place).announced? = some place.path := by
  cases announcement <;> rfl

theorem Outline.entered_node (place : Context) (below : Branches) :
    (Outline.node place below).events.filterMap Event.entered? =
      place.path :: below.events.filterMap Event.entered? := by
  simp [Outline.events, Event.entered?]

theorem Branches.entered_branch (announcement : Announcement) (first : Outline)
    (rest : Branches) :
    (Branches.branch announcement first rest).events.filterMap Event.entered? =
      first.events.filterMap Event.entered? ++ rest.events.filterMap Event.entered? := by
  simp [Branches.events, Announcement.event_entered?]

mutual

/-- Every place that is entered is left. -/
theorem Outline.left_perm (outline : Outline) :
    (outline.events.filterMap Event.left?).Perm (outline.events.filterMap Event.entered?) := by
  match outline with
  | .node place below =>
      have inside := below.left_perm
      have last : (Outline.node place below).events.filterMap Event.left? =
          below.events.filterMap Event.left? ++ [place.path] := by
        simp [Outline.events, List.filterMap_cons, Event.left?]
      rw [last, Outline.entered_node]
      exact (List.perm_append_singleton _ _).trans (inside.cons _)

theorem Branches.left_perm (branches : Branches) :
    (branches.events.filterMap Event.left?).Perm
      (branches.events.filterMap Event.entered?) := by
  match branches with
  | .finished => exact .rfl
  | .failed _ => exact .rfl
  | .branch announcement first rest =>
      have both : (Branches.branch announcement first rest).events.filterMap Event.left? =
          first.events.filterMap Event.left? ++ rest.events.filterMap Event.left? := by
        simp [Branches.events, Announcement.event_left?]
      rw [both, Branches.entered_branch]
      exact first.left_perm.append rest.left_perm

end

mutual

/-- What is entered is the place at the top, and what is announced below it. -/
theorem Outline.entered_eq (outline : Outline) :
    outline.events.filterMap Event.entered? =
      outline.place.path :: outline.events.filterMap Event.announced? := by
  match outline with
  | .node place below =>
      have inside : (Outline.node place below).events.filterMap Event.announced? =
          below.events.filterMap Event.announced? := by
        simp [Outline.events, List.filterMap_cons, Event.announced?]
      rw [Outline.entered_node, inside, below.entered_eq]
      rfl

theorem Branches.entered_eq (branches : Branches) :
    branches.events.filterMap Event.entered? =
      branches.events.filterMap Event.announced? := by
  match branches with
  | .finished => rfl
  | .failed _ => rfl
  | .branch announcement first rest =>
      have both : (Branches.branch announcement first rest).events.filterMap
          Event.announced? =
          first.place.path :: (first.events.filterMap Event.announced? ++
            rest.events.filterMap Event.announced?) := by
        simp [Branches.events, Announcement.event_announced?]
      rw [Branches.entered_branch, both, first.entered_eq, rest.entered_eq]
      rfl

end

/-! ## The order of the document -/

theorem map_append_map (above : List Step) (step : Step) (paths : List (List Step)) :
    (paths.map (step :: ·)).map (above ++ ·) = paths.map (above ++ [step] ++ ·) := by
  rw [List.map_map]
  apply List.map_congr_left
  intro path _
  simp

mutual

theorem outline_inOrder (schema : Schema) (place : Context) (value : Json) :
    ((outline schema place value).events.filterMap Event.entered?).Sublist
      (value.paths.map (place.path ++ ·)) := by
  rw [outline, Outline.entered_node]
  match value with
  | .object members =>
      rw [Json.paths, List.map_cons, List.append_nil, branches]
      apply List.Sublist.cons_cons
      split
      · exact memberBranches_inOrder schema place _ members
      · exact List.nil_sublist _
  | .array items =>
      rw [Json.paths, List.map_cons, List.append_nil, branches]
      apply List.Sublist.cons_cons
      split
      · exact itemBranches_inOrder schema place _ 0 items
      · exact List.nil_sublist _
  | .null | .boolean _ | .number _ | .string _ =>
      simp [Json.paths, branches, Branches.events]

theorem memberBranches_inOrder (schema : Schema) (container : Context) (node : Node)
    (members : Members) :
    ((memberBranches schema container node members).events.filterMap Event.entered?).Sublist
      ((Json.memberPaths members).map (container.path ++ ·)) := by
  match members with
  | [] => exact List.nil_sublist _
  | (key, value) :: rest =>
      rw [memberBranches]
      split
      · exact List.nil_sublist _
      · next place found =>
          have first := outline_inOrder schema place value
          have others := memberBranches_inOrder schema container node rest
          rw [context_path found, ← map_append_map] at first
          rw [Branches.entered_branch, Json.memberPaths, List.map_append]
          exact first.append others

theorem itemBranches_inOrder (schema : Schema) (container : Context) (node : Node)
    (position : Nat) (items : List Json) :
    ((itemBranches schema container node position items).events.filterMap
      Event.entered?).Sublist ((Json.itemPaths position items).map (container.path ++ ·)) := by
  match items with
  | [] => exact List.nil_sublist _
  | value :: rest =>
      rw [itemBranches]
      split
      · exact List.nil_sublist _
      · next place found =>
          have first := outline_inOrder schema place value
          have others := itemBranches_inOrder schema container node (position + 1) rest
          rw [context_path found, ← map_append_map] at first
          rw [Branches.entered_branch, Json.itemPaths, List.map_append]
          exact first.append others

end

/-! ## Places and announcements -/

mutual

/-- Every place is one step of the document away from the place above it, which
announces it. -/
def Outline.Grounded (schema : Schema) : Outline → Prop
  | .node place below => below.GroundedIn schema place

/-- `Outline.Grounded` for the places right below a place. -/
def Branches.GroundedIn (schema : Schema) (container : Context) : Branches → Prop
  | .finished => True
  | .failed _ => True
  | .branch announcement first rest =>
      (∃ step, StepsTo schema container step first.place) ∧
        Announces first.place (announcement.event first.place) ∧
        first.Grounded schema ∧ rest.GroundedIn schema container

end

theorem Announces.of_key {container place : Context} {node : Node} {members : Members}
    {key : String} {value : Json} (isObject : container.value = .object members)
    (looked : members.lookup key = some value)
    (found : memberContext schema container node key value = .ok place) :
    Announces place (.property place) := by
  have parent : place.parent = some container.value :=
    congrArg Context.parent (context_eq found)
  rw [isObject] at parent
  rw [← (context_shaped found).2] at looked
  exact .property (context_path found) parent looked

theorem Announces.of_index {container place : Context} {node : Node} {items : List Json}
    {position : Nat} {value : Json} (isArray : container.value = .array items)
    (looked : items[position]? = some value)
    (found : itemContext schema container node position value = .ok place) :
    Announces place (.item place position) := by
  have parent : place.parent = some container.value :=
    congrArg Context.parent (context_eq found)
  rw [isArray] at parent
  rw [← (context_shaped found).2] at looked
  exact .item (context_path found) parent looked

mutual

theorem branches_grounded {value : Json} (distinct : value.KeysDistinct) {place : Context}
    (same : place.value = value) : (branches schema place value).GroundedIn schema place := by
  match value with
  | .object members =>
      rw [branches]
      split
      · next node placed =>
          exact memberBranches_grounded distinct.1 placed same distinct.2
            fun _ => id
      · trivial
  | .array items =>
      rw [branches]
      split
      · next node placed => exact itemBranches_grounded placed same distinct rfl
      · trivial
  | .null | .boolean _ | .number _ | .string _ => trivial

theorem memberBranches_grounded {container : Context} {node : Node} {all members : Members}
    (nodup : (all.map (·.1)).Nodup) (placed : container.node = some node)
    (isObject : container.value = .object all) (distinct : Json.MemberKeysDistinct members)
    (among : ∀ member, member ∈ members → member ∈ all) :
    (memberBranches schema container node members).GroundedIn schema container := by
  match members with
  | [] => trivial
  | (key, value) :: rest =>
      rw [memberBranches]
      split
      · trivial
      · next place found =>
          have looked := lookup_of_mem nodup (among _ List.mem_cons_self)
          exact ⟨⟨.key key, .key placed isObject looked found⟩,
            .of_key isObject looked found,
            branches_grounded distinct.1 (context_shaped found).2,
            memberBranches_grounded nodup placed isObject distinct.2
              fun member later => among member (List.mem_cons_of_mem _ later)⟩

theorem itemBranches_grounded {container : Context} {node : Node} {position : Nat}
    {all items : List Json} (placed : container.node = some node)
    (isArray : container.value = .array all) (distinct : Json.ItemKeysDistinct items)
    (behind : all.drop position = items) :
    (itemBranches schema container node position items).GroundedIn schema container := by
  match items with
  | [] => trivial
  | value :: rest =>
      rw [itemBranches]
      split
      · trivial
      · next place found =>
          have looked : all[position]? = some value := by
            rw [← List.head?_drop, behind, List.head?_cons]
          have further : all.drop (position + 1) = rest := by
            rw [← List.tail_drop, behind, List.tail_cons]
          exact ⟨⟨.index position, .index placed isArray looked found⟩,
            .of_index isArray looked found,
            branches_grounded distinct.1 (context_shaped found).2,
            itemBranches_grounded placed isArray distinct.2 further⟩

end

/-- The event is about the place that a path leads to from a place. -/
def Reached (schema : Schema) (place : Context) (event : Event) : Prop :=
  ∃ path, event.path = place.path ++ path ∧ placeFrom? schema place path = some event.place

theorem Reached.step {container place : Context} {step : Step} {event : Event}
    (steps : StepsTo schema container step place) (reached : Reached schema place event) :
    Reached schema container event := by
  obtain ⟨path, same, further⟩ := reached
  refine ⟨step :: path, ?_, ?_⟩
  · rw [same, steps.path_eq, List.append_assoc, List.singleton_append]
  · rw [placeFrom?, childPlace?_eq_some_iff.mpr steps]
    exact further

theorem Reached.here {place : Context} {event : Event} (same : event.place = place) :
    Reached schema place event := by
  cases same
  exact ⟨[], (List.append_nil _).symm, rfl⟩

theorem Announcement.event_place (announcement : Announcement) (place : Context) :
    (announcement.event place).place = place := by
  cases announcement <;> rfl

mutual

theorem Outline.reached {outline : Outline} (grounded : outline.Grounded schema) :
    ∀ event ∈ outline.events, Reached schema outline.place event := by
  match outline with
  | .node place below =>
      intro event mem
      simp only [Outline.events, List.mem_cons, List.mem_append, List.not_mem_nil,
        or_false] at mem
      rcases mem with rfl | inside | rfl
      · exact .here rfl
      · exact Branches.reached grounded event inside
      · exact .here rfl

theorem Branches.reached {branches : Branches} {container : Context}
    (grounded : branches.GroundedIn schema container) :
    ∀ event ∈ branches.events, Reached schema container event := by
  match branches, grounded with
  | .finished, _ => exact fun _ mem => nomatch mem
  | .failed _, _ => exact fun _ mem => nomatch mem
  | .branch announcement first rest, ⟨⟨step, steps⟩, _, groundedFirst, groundedRest⟩ =>
      intro event mem
      simp only [Branches.events, List.mem_cons, List.mem_append] at mem
      rcases mem with rfl | inFirst | inRest
      · exact (Reached.here (announcement.event_place first.place)).step steps
      · exact (Outline.reached groundedFirst event inFirst).step steps
      · exact Branches.reached groundedRest event inRest

end

/-- The place is announced right before it is entered. -/
def AnnouncedIn (events : List Event) (place : Context) : Prop :=
  ∃ announcement, Announces place announcement ∧ [announcement, .enter place] <:+: events

theorem AnnouncedIn.surround {events : List Event} {place : Context}
    (announced : AnnouncedIn events place) (front back : List Event) :
    AnnouncedIn (front ++ (events ++ back)) place := by
  obtain ⟨announcement, announces, before, after, rfl⟩ := announced
  exact ⟨announcement, announces, front ++ before, after ++ back, by simp⟩

mutual

theorem Outline.announced {outline : Outline} (grounded : outline.Grounded schema)
    {place : Context} (entered : .enter place ∈ outline.events) :
    place = outline.place ∨ AnnouncedIn outline.events place := by
  match outline with
  | .node top below =>
      simp only [Outline.events, List.mem_cons, List.mem_append, List.not_mem_nil, or_false,
        reduceCtorEq, or_self] at entered
      rcases entered with same | inside
      · cases same
        exact .inl rfl
      · exact .inr ((Branches.announced grounded inside).surround [.enter top] [.leave top])

theorem Branches.announced {branches : Branches} {container : Context}
    (grounded : branches.GroundedIn schema container) {place : Context}
    (entered : .enter place ∈ branches.events) : AnnouncedIn branches.events place := by
  match branches, grounded with
  | .finished, _ => cases entered
  | .failed _, _ => cases entered
  | .branch announcement first rest, ⟨_, announces, groundedFirst, groundedRest⟩ =>
      have notAnnounced : .enter place ≠ announcement.event first.place := by
        cases announcement <;> exact fun same => nomatch same
      simp only [Branches.events, List.mem_cons, notAnnounced, List.mem_append, false_or]
        at entered
      rcases entered with inFirst | inRest
      · rcases Outline.announced groundedFirst inFirst with rfl | inside
        · obtain ⟨top, below⟩ := first
          exact ⟨_, announces, [], below.events ++ [.leave top] ++ rest.events, rfl⟩
        · exact inside.surround [announcement.event first.place] rest.events
      · have behind := (Branches.announced groundedRest inRest).surround
          (announcement.event first.place :: first.events) []
        simpa [Branches.events] using behind

end

/-! ## Every visible place -/

theorem memberBranches_of_mem {container : Context} {node : Node} {members : Members}
    (checks : (memberBranches schema container node members).check = .ok ()) {key : String}
    {value : Json} (mem : (key, value) ∈ members) :
    ∃ place, memberContext schema container node key value = .ok place ∧
      (outline schema place value).check = .ok () ∧
      (outline schema place value).events ⊆
        (memberBranches schema container node members).events := by
  induction members with
  | nil => cases mem
  | cons member rest inner =>
      obtain ⟨key', value'⟩ := member
      obtain ⟨first, found, checksFirst, checksRest, split⟩ := of_check_memberBranches checks
      rw [split, Branches.events]
      rcases List.mem_cons.mp mem with same | later
      · cases same
        exact ⟨first, found, checksFirst,
          fun _ inFirst => List.mem_cons_of_mem _ (List.mem_append_left _ inFirst)⟩
      · obtain ⟨place, resolved, checksPlace, among⟩ := inner checksRest later
        exact ⟨place, resolved, checksPlace,
          fun _ inRest => List.mem_cons_of_mem _ (List.mem_append_right _ (among inRest))⟩

theorem itemBranches_of_getElem {container : Context} {node : Node} {items : List Json}
    {position later : Nat}
    (checks : (itemBranches schema container node position items).check = .ok ())
    {value : Json} (looked : items[later]? = some value) :
    ∃ place, itemContext schema container node (position + later) value = .ok place ∧
      (outline schema place value).check = .ok () ∧
      (outline schema place value).events ⊆
        (itemBranches schema container node position items).events := by
  induction items generalizing position later with
  | nil => cases looked
  | cons item rest inner =>
      obtain ⟨first, found, checksFirst, checksRest, split⟩ := of_check_itemBranches checks
      rw [split, Branches.events]
      cases later with
      | zero =>
          cases looked
          exact ⟨first, found, checksFirst,
            fun _ inFirst => List.mem_cons_of_mem _ (List.mem_append_left _ inFirst)⟩
      | succ later =>
          obtain ⟨place, resolved, checksPlace, among⟩ := inner checksRest looked
          rw [Nat.add_right_comm, Nat.add_assoc] at resolved
          exact ⟨place, resolved, checksPlace,
            fun _ inRest => List.mem_cons_of_mem _ (List.mem_append_right _ (among inRest))⟩

/-- Behind a step to a value there is a place, where a walk comes by. -/
theorem exists_child {place : Context} {value : Json} (distinct : value.KeysDistinct)
    (shaped : Shaped place) (same : place.value = value) (visible : place.shape ≠ .opaqueValue)
    (checks : (outline schema place value).check = .ok ()) {step : Step} {rest : List Step}
    (among : step :: rest ∈ value.paths) :
    ∃ child content, childPlace? schema place step = some child ∧ Shaped child ∧
      child.value = content ∧ content.KeysDistinct ∧ rest ∈ content.paths ∧
      (outline schema child content).check = .ok () ∧
      (outline schema child content).events ⊆ (outline schema place value).events := by
  obtain ⟨node, placed⟩ : ∃ node, place.node = some node := by
    rw [← Option.ne_none_iff_exists']
    exact fun none => visible (shaped.opaque_iff.mpr none)
  have inside : (branches schema place value).events ⊆ (outline schema place value).events := by
    intro event mem
    exact List.mem_cons_of_mem _ (List.mem_append_left _ mem)
  change (branches schema place value).check = .ok () at checks
  cases value with
  | object members =>
      rw [Json.paths] at among
      rcases List.mem_cons.mp among with empty | below
      · cases empty
      obtain ⟨key, content, _, split, mem, further⟩ := Json.mem_memberPaths.mp below
      cases split
      rw [branches, placed] at checks inside
      obtain ⟨child, found, checksChild, events⟩ := memberBranches_of_mem checks mem
      have looked := lookup_of_mem distinct.1 mem
      have distinctContent := Json.memberKeysDistinct_iff.mp distinct.2 _ mem
      refine ⟨child, content, ?_, (context_shaped found).1, (context_shaped found).2,
        distinctContent, further, checksChild, fun _ among => inside (events among)⟩
      rw [childPlace?_key placed same looked, found]
      rfl
  | array items =>
      rw [Json.paths] at among
      rcases List.mem_cons.mp among with empty | below
      · cases empty
      obtain ⟨position, content, _, split, looked, further⟩ := Json.mem_itemPaths.mp below
      cases split
      rw [branches, placed] at checks inside
      obtain ⟨child, found, checksChild, events⟩ := itemBranches_of_getElem checks looked
      rw [Nat.zero_add] at found ⊢
      have distinctContent :=
        Json.itemKeysDistinct_iff.mp distinct content (List.mem_of_getElem? looked)
      refine ⟨child, content, ?_, (context_shaped found).1, (context_shaped found).2,
        distinctContent, further, checksChild, fun _ among => inside (events among)⟩
      rw [childPlace?_index placed same looked, found]
      rfl
  | null | boolean | number | string =>
      simp [Json.paths] at among

/-- A walk of the whole outline enters every place that no opaque one hides. -/
theorem entered_of_unhidden {place : Context} {value : Json} {path : List Step}
    (distinct : value.KeysDistinct) (shaped : Shaped place) (same : place.value = value)
    (checks : (outline schema place value).check = .ok ()) (among : path ∈ value.paths)
    (unhidden : ∀ above, above <+: path → above ≠ path →
      ∃ between, placeFrom? schema place above = some between ∧
        between.shape ≠ .opaqueValue) :
    ∃ entered, .enter entered ∈ (outline schema place value).events ∧
      entered.path = place.path ++ path := by
  induction path generalizing place value with
  | nil => exact ⟨place, List.mem_cons_self, (List.append_nil _).symm⟩
  | cons step rest inner =>
      obtain ⟨between, here, visible⟩ := unhidden [] List.nil_prefix (by simp)
      cases here
      obtain ⟨child, content, stepped, shapedChild, sameContent, distinctContent, further,
        checksChild, events⟩ := exists_child distinct shaped same visible checks among
      have unhiddenChild : ∀ above, above <+: rest → above ≠ rest →
          ∃ between, placeFrom? schema child above = some between ∧
            between.shape ≠ .opaqueValue := by
        intro above reaches proper
        obtain ⟨between, reached, clear⟩ := unhidden (step :: above)
          (List.prefix_cons_inj step |>.mpr reaches) (by simpa using proper)
        rw [placeFrom?, stepped] at reached
        exact ⟨between, reached, clear⟩
      obtain ⟨entered, mem, path⟩ := inner distinctContent shapedChild sameContent checksChild
        further unhiddenChild
      refine ⟨entered, events mem, ?_⟩
      rw [path, (childPlace?_eq_some_iff.mp stepped).path_eq, List.append_assoc,
        List.singleton_append]

/-! ## Whole documents -/

/-- Every event is about the place that its path leads to in the document. -/
theorem documentOutline_placed {document : Json} {outline : Outline}
    (distinct : document.KeysDistinct) (found : documentOutline schema document = .ok outline) :
    ∀ event ∈ outline.events, placeAt? schema document event.path = some event.place := by
  obtain ⟨place, root, rfl⟩ := documentOutline_eq found
  have grounded : (Walk.outline schema place document).Grounded schema :=
    branches_grounded distinct (context_shaped root).2
  intro event mem
  obtain ⟨path, samePath, reached⟩ := Outline.reached grounded event mem
  change event.path = place.path ++ path at samePath
  rw [context_path root, List.nil_append] at samePath
  rw [placeAt?, root, samePath]
  exact reached

/-- Places are entered in the order of the document. -/
theorem documentOutline_inOrder {document : Json} {outline : Outline}
    (found : documentOutline schema document = .ok outline) :
    (outline.events.filterMap Event.entered?).Sublist document.paths := by
  obtain ⟨place, root, rfl⟩ := documentOutline_eq found
  have inOrder := outline_inOrder schema place document
  rw [context_path root] at inOrder
  simpa only [List.nil_append, List.map_id'] using inOrder

/-- A walk of the whole outline of a document leads around the document. -/
theorem documentOutline_tours {document : Json} {outline : Outline}
    (distinct : document.KeysDistinct)
    (found : documentOutline schema document = .ok outline) (checks : outline.check = .ok ()) :
    Tours schema document outline.events := by
  have nested := documentOutline_nested found
  have apart := documentOutline_apart found distinct
  have inOrder := documentOutline_inOrder found
  have placed := documentOutline_placed distinct found
  obtain ⟨place, root, rfl⟩ := documentOutline_eq found
  have atRoot : place.path = [] := context_path root
  obtain ⟨shaped, same⟩ := context_shaped root
  have grounded : (Walk.outline schema place document).Grounded schema :=
    branches_grounded distinct same
  have following : ∀ path, placeAt? schema document path = placeFrom? schema place path := by
    intro path
    unfold placeAt?
    rw [root]
    rfl
  have nodup := inOrder.nodup (Json.paths_nodup distinct)
  have entered : ∀ path, Visible schema document path →
      path ∈ (Walk.outline schema place document).events.filterMap Event.entered? := by
    intro path visible
    have unhidden := visible.unhidden
    simp only [following] at unhidden
    obtain ⟨child, mem, samePath⟩ := entered_of_unhidden distinct shaped same checks
      visible.present unhidden
    rw [atRoot, List.nil_append] at samePath
    exact List.mem_filterMap.mpr ⟨_, mem, congrArg some samePath⟩
  refine ⟨?placed, ?entersOnce, ?leavesOnce, inOrder, ?encloses, ?announced⟩
  case placed =>
    exact fun event mem => ⟨visible_of_placeAt? (placed event mem), placed event mem⟩
  case entersOnce =>
    intro path visible
    exact List.count_eq_one_of_mem nodup (entered path visible)
  case leavesOnce =>
    intro path visible
    rw [(Outline.left_perm _).count_eq]
    exact List.count_eq_one_of_mem nodup (entered path visible)
  case encloses =>
    intro child mem
    exact Outline.encloses nested apart mem
  case announced =>
    intro child mem notRoot
    constructor
    · have among : child.path ∈
          (Walk.outline schema place document).events.filterMap Event.entered? :=
        List.mem_filterMap.mpr ⟨_, mem, rfl⟩
      rw [Outline.entered_eq] at among nodup
      rcases List.mem_cons.mp among with top | announced
      · exact absurd (top.trans atRoot) notRoot
      · exact List.count_eq_one_of_mem (List.nodup_cons.mp nodup).2 announced
    · rcases Outline.announced grounded mem with rfl | announced
      · exact absurd atRoot notRoot
      · exact announced

end Walk

open Walk

/-- Where a walk succeeded whose observer always went on, the observer was led around the
document. -/
theorem unstopped_walk_tours {State : Type} {schema : Schema} {document : Json}
    {observer : Observer State} {state : State} (distinct : document.KeysDistinct)
    (succeeded : (walk document schema observer state).2 = .ok ())
    (unstopped : ∀ entry ∈ heard document schema observer state, entry.answer = .continue) :
    Tours schema document ((heard document schema observer state).map (·.event)) := by
  obtain ⟨outline, found, checks⟩ := exists_documentOutline succeeded unstopped
  rw [heard_eq_events distinct found checks unstopped]
  exact documentOutline_tours distinct found checks

/-- An observer that never stops tours a workflow, options included, but not what is below
them. -/
theorem unstopped_walk_tours_workflow :
    let events := (heard workflow workflowSchema (Observer.stopsAt [] []) ()).map (·.event)
    workflow.KeysDistinct ∧
      (walk workflow workflowSchema (Observer.stopsAt [] []) ()).2 = .ok () ∧
      (∀ entry ∈ heard workflow workflowSchema (Observer.stopsAt [] []) (),
        entry.answer = .continue) ∧
      Tours workflowSchema workflow events ∧
      events.filterMap Event.entered? =
        [[], [.key "jobs"], [.key "jobs", .key "build"], [.key "on"], [.key "on", .index 0],
          [.key "with"]] := by
  intro events
  have succeeded : (walk workflow workflowSchema (Observer.stopsAt [] []) ()).2 = .ok () := by
    rw [walk_eq_run, documentOutline_workflow]
    rfl
  have answers : (heard workflow workflowSchema (Observer.stopsAt [] []) ()).map (·.answer) =
      List.replicate 17 .continue := by
    unfold heard
    rw [walk_eq_run, documentOutline_workflow]
    rfl
  have unstopped : ∀ entry ∈ heard workflow workflowSchema (Observer.stopsAt [] []) (),
      entry.answer = .continue := by
    intro entry mem
    have among : entry.answer ∈ (heard workflow workflowSchema (Observer.stopsAt [] []) ()).map
        (·.answer) := List.mem_map_of_mem mem
    rw [answers] at among
    exact List.eq_of_mem_replicate among
  refine ⟨workflow_distinct, succeeded, unstopped,
    unstopped_walk_tours workflow_distinct succeeded unstopped, ?_⟩
  unfold events heard
  rw [walk_eq_run, documentOutline_workflow]
  rfl

end Pipewright
