import Pipewright.Proofs.Json.Keys
import Pipewright.Proofs.Walk.Events

/-!
# Paths of outlines

Every place of an outline is one step below the place above it, and in a document that
lists each key once no two places below the same place have the same path.  So the path
of an event tells which part of the outline it comes from.
-/

namespace Pipewright

namespace Walk

/-- Is a path strictly below another one? -/
def isBelow (path above : List Step) : Bool :=
  above.isPrefixOf path && above != path

theorem isBelow_iff {path above : List Step} :
    isBelow path above = true ↔ ∃ step rest, path = above ++ step :: rest := by
  unfold isBelow
  rw [Bool.and_eq_true, List.isPrefixOf_iff_prefix, bne_iff_ne]
  constructor
  · rintro ⟨⟨rest, rfl⟩, different⟩
    cases rest with
    | nil => exact absurd (List.append_nil above).symm different
    | cons step rest => exact ⟨step, rest, rfl⟩
  · rintro ⟨step, rest, rfl⟩
    refine ⟨List.prefix_append _ _, ?_⟩
    intro same
    exact absurd (List.self_eq_append_right.mp same) (List.cons_ne_nil step rest)

theorem prefix_of_isBelow {path above : List Step} (below : isBelow path above = true) :
    above <+: path := by
  obtain ⟨step, rest, rfl⟩ := isBelow_iff.mp below
  exact List.prefix_append _ _

theorem isBelow_of_prefix {path above : List Step} {step : Step}
    (reaches : above ++ [step] <+: path) : isBelow path above = true := by
  obtain ⟨rest, rfl⟩ := reaches
  exact isBelow_iff.mpr ⟨step, rest, by rw [List.append_assoc, List.singleton_append]⟩

theorem not_prefix_of_isBelow {path above : List Step} (below : isBelow path above = true) :
    ¬ path <+: above := by
  obtain ⟨step, rest, rfl⟩ := isBelow_iff.mp below
  intro reaches
  have longer := reaches.length_le
  rw [List.length_append, List.length_cons] at longer
  omega

/-- Paths behind different steps are not prefixes of one another. -/
theorem not_prefix_of_steps {above left right : List Step} {step other : Step}
    (different : step ≠ other) (leftward : above ++ [step] <+: left)
    (rightward : above ++ [other] <+: right) : ¬ left <+: right := by
  intro reaches
  have both := List.prefix_of_prefix_length_le (leftward.trans reaches) rightward (by simp)
  have same := both.eq_of_length (by simp)
  exact different (List.singleton_inj.mp (List.append_cancel_left same))

/-! ## Nesting -/

mutual

/-- Every place is one step below the place above it. -/
def Outline.Nested : Outline → Prop
  | .node place below => below.NestedIn place.path

/-- `Outline.Nested` for the places right below a path. -/
def Branches.NestedIn (path : List Step) : Branches → Prop
  | .finished => True
  | .failed _ => True
  | .branch _ first rest =>
      (∃ step, first.place.path = path ++ [step]) ∧ first.Nested ∧ rest.NestedIn path

end

theorem context_path {schema : Schema} {path : List Step} {declared : Option Node}
    {value : Json} {parent : Option Json} {key : Option Step} {place : Context}
    (found : context schema path declared value parent key = .ok place) : place.path = path :=
  congrArg Context.path (context_eq found)

mutual

theorem branches_nested (schema : Schema) (place : Context) (value : Json) :
    (branches schema place value).NestedIn place.path := by
  match value with
  | .object members =>
      rw [branches]
      split
      · exact memberBranches_nested schema place _ members
      · trivial
  | .array items =>
      rw [branches]
      split
      · exact itemBranches_nested schema place _ 0 items
      · trivial
  | .null | .boolean _ | .number _ | .string _ => trivial

theorem memberBranches_nested (schema : Schema) (container : Context) (node : Node)
    (members : Members) :
    (memberBranches schema container node members).NestedIn container.path := by
  match members with
  | [] => trivial
  | (key, value) :: rest =>
      rw [memberBranches]
      split
      · trivial
      · next place found =>
          exact ⟨⟨.key key, context_path found⟩, branches_nested schema place value,
            memberBranches_nested schema container node rest⟩

theorem itemBranches_nested (schema : Schema) (container : Context) (node : Node)
    (position : Nat) (items : List Json) :
    (itemBranches schema container node position items).NestedIn container.path := by
  match items with
  | [] => trivial
  | value :: rest =>
      rw [itemBranches]
      split
      · trivial
      · next place found =>
          exact ⟨⟨.index position, context_path found⟩, branches_nested schema place value,
            itemBranches_nested schema container node (position + 1) rest⟩

end

theorem outline_nested (schema : Schema) (place : Context) (value : Json) :
    (outline schema place value).Nested :=
  branches_nested schema place value

@[simp] theorem Announcement.event_path (announcement : Announcement) (place : Context) :
    (announcement.event place).path = place.path := by
  cases announcement <;> rfl

theorem Announcement.prefix_event_path (announcement : Announcement) (place : Context) :
    place.path <+: (announcement.event place).path := by
  simp

theorem Branches.step_of_mem {branches : Branches} {path : List Step}
    (nested : branches.NestedIn path) :
    ∀ place ∈ branches.places, ∃ step, place.path = path ++ [step] := by
  match branches, nested with
  | .finished, _ => exact fun _ mem => nomatch mem
  | .failed _, _ => exact fun _ mem => nomatch mem
  | .branch _ first rest, ⟨step, _, nestedRest⟩ =>
      intro place mem
      rcases List.mem_cons.mp mem with rfl | later
      · exact step
      · exact step_of_mem nestedRest place later

mutual

theorem Outline.prefix_of_mem_events {outline : Outline} (nested : outline.Nested) :
    ∀ event ∈ outline.events, outline.place.path <+: event.path := by
  match outline with
  | .node place below =>
      intro event mem
      simp only [Outline.events, List.mem_cons, List.mem_append, List.not_mem_nil,
        or_false] at mem
      rcases mem with rfl | inside | rfl
      · exact List.prefix_rfl
      · obtain ⟨child, among, reaches⟩ := Branches.place_of_mem_events nested event inside
        obtain ⟨step, path⟩ := Branches.step_of_mem nested child among
        exact ((path ▸ List.prefix_append _ _ : place.path <+: child.path)).trans reaches
      · exact List.prefix_rfl

/-- An event below a path belongs to one of the places right below it. -/
theorem Branches.place_of_mem_events {branches : Branches} {path : List Step}
    (nested : branches.NestedIn path) :
    ∀ event ∈ branches.events, ∃ place ∈ branches.places, place.path <+: event.path := by
  match branches, nested with
  | .finished, _ => exact fun _ mem => nomatch mem
  | .failed _, _ => exact fun _ mem => nomatch mem
  | .branch announcement first rest, ⟨_, nestedFirst, nestedRest⟩ =>
      intro event mem
      simp only [Branches.events, List.mem_cons, List.mem_append] at mem
      rcases mem with rfl | inside | later
      · exact ⟨first.place, List.mem_cons_self, announcement.prefix_event_path first.place⟩
      · exact ⟨first.place, List.mem_cons_self,
          Outline.prefix_of_mem_events nestedFirst event inside⟩
      · obtain ⟨place, among, reaches⟩ := Branches.place_of_mem_events nestedRest event later
        exact ⟨place, List.mem_cons_of_mem _ among, reaches⟩

end

theorem Branches.isBelow_of_mem_events {branches : Branches} {path : List Step}
    (nested : branches.NestedIn path) :
    ∀ event ∈ branches.events, isBelow event.path path = true := by
  intro event mem
  obtain ⟨place, among, reaches⟩ := Branches.place_of_mem_events nested event mem
  obtain ⟨step, same⟩ := Branches.step_of_mem nested place among
  rw [same] at reaches
  exact isBelow_of_prefix reaches

/-! ## Siblings -/

mutual

/-- No two places right below the same place have the same path. -/
def Outline.Apart : Outline → Prop
  | .node _ below => below.Apart

/-- `Outline.Apart` for the places right below a place. -/
def Branches.Apart : Branches → Prop
  | .finished => True
  | .failed _ => True
  | .branch _ first rest =>
      (∀ other ∈ rest.places, first.place.path ≠ other.path) ∧ first.Apart ∧ rest.Apart

end

theorem key_of_mem_memberBranches {schema : Schema} {container : Context} {node : Node}
    {members : Members} :
    ∀ place ∈ (memberBranches schema container node members).places,
      ∃ member ∈ members, place.path = container.path ++ [.key member.1] := by
  induction members with
  | nil => exact fun _ mem => nomatch mem
  | cons member rest inner =>
      obtain ⟨key, value⟩ := member
      intro place mem
      rw [memberBranches] at mem
      split at mem
      · cases mem
      · next first found =>
          rcases List.mem_cons.mp mem with rfl | later
          · exact ⟨_, List.mem_cons_self, context_path found⟩
          · obtain ⟨member, among, path⟩ := inner place later
            exact ⟨member, List.mem_cons_of_mem _ among, path⟩

theorem position_of_mem_itemBranches {schema : Schema} {container : Context} {node : Node}
    {position : Nat} {items : List Json} :
    ∀ place ∈ (itemBranches schema container node position items).places,
      ∃ later, position ≤ later ∧ place.path = container.path ++ [.index later] := by
  induction items generalizing position with
  | nil => exact fun _ mem => nomatch mem
  | cons value rest inner =>
      intro place mem
      rw [itemBranches] at mem
      split at mem
      · cases mem
      · next first found =>
          rcases List.mem_cons.mp mem with rfl | behind
          · exact ⟨position, Nat.le_refl _, context_path found⟩
          · obtain ⟨later, after, path⟩ := inner place behind
            exact ⟨later, Nat.le_of_succ_le after, path⟩

mutual

theorem branches_apart {schema : Schema} {value : Json} (distinct : value.KeysDistinct)
    (place : Context) : (branches schema place value).Apart := by
  match value with
  | .object members =>
      rw [branches]
      split
      · exact memberBranches_apart distinct.1 distinct.2 place _
      · trivial
  | .array items =>
      rw [branches]
      split
      · exact itemBranches_apart distinct place _ 0
      · trivial
  | .null | .boolean _ | .number _ | .string _ => trivial

theorem memberBranches_apart {schema : Schema} {members : Members}
    (nodup : (members.map (·.1)).Nodup) (distinct : Json.MemberKeysDistinct members)
    (container : Context) (node : Node) :
    (memberBranches schema container node members).Apart := by
  match members with
  | [] => trivial
  | (key, value) :: rest =>
      rw [memberBranches]
      split
      · trivial
      · next place found =>
          obtain ⟨new, nodupRest⟩ := List.nodup_cons.mp nodup
          refine ⟨?_, branches_apart distinct.1 place,
            memberBranches_apart nodupRest distinct.2 container node⟩
          intro other among same
          obtain ⟨member, later, path⟩ := key_of_mem_memberBranches other among
          rw [path, Outline.place, context_path found] at same
          have equal : key = member.1 := by simpa using same
          have listed : member.1 ∈ rest.map (·.1) := List.mem_map_of_mem later
          exact new (equal ▸ listed)

theorem itemBranches_apart {schema : Schema} {items : List Json}
    (distinct : Json.ItemKeysDistinct items) (container : Context) (node : Node)
    (position : Nat) : (itemBranches schema container node position items).Apart := by
  match items with
  | [] => trivial
  | value :: rest =>
      rw [itemBranches]
      split
      · trivial
      · next place found =>
          refine ⟨?_, branches_apart distinct.1 place,
            itemBranches_apart distinct.2 container node (position + 1)⟩
          intro other among same
          obtain ⟨later, after, path⟩ := position_of_mem_itemBranches other among
          rw [path, Outline.place, context_path found] at same
          have equal : position = later := by simpa using same
          omega

end

/-- The paths of events of a place and of a later one beside it are not prefixes of one
another. -/
theorem Branches.not_prefix_of_apart {announcement : Announcement} {first : Outline}
    {rest : Branches} {path : List Step}
    (nested : (Branches.branch announcement first rest).NestedIn path)
    (apart : (Branches.branch announcement first rest).Apart) {event later : List Step}
    (inFirst : first.place.path <+: event) {place : Context} (among : place ∈ rest.places)
    (inRest : place.path <+: later) : ¬ event <+: later ∧ ¬ later <+: event := by
  obtain ⟨⟨step, stepPath⟩, _, nestedRest⟩ := nested
  obtain ⟨other, otherPath⟩ := Branches.step_of_mem nestedRest place among
  have different : step ≠ other := by
    rintro rfl
    exact apart.1 place among (stepPath.trans otherPath.symm)
  rw [stepPath] at inFirst
  rw [otherPath] at inRest
  exact ⟨not_prefix_of_steps different inFirst inRest,
    not_prefix_of_steps different.symm inRest inFirst⟩

/-! ## Enclosed events -/

/-- The events between entering and leaving a place are those strictly below it. -/
def Encloses (events : List Event) (place : Context) : Prop :=
  ∃ before inside after,
    events = before ++ .enter place :: (inside ++ .leave place :: after) ∧
      (∀ event ∈ inside, isBelow event.path place.path = true) ∧
      ∀ event ∈ before ++ after, isBelow event.path place.path = false

/-- Events that are not below the place can be put around. -/
theorem Encloses.surround {events : List Event} {place : Context}
    (encloses : Encloses events place) (front back : List Event)
    (outside : ∀ event ∈ front ++ back, ¬ place.path <+: event.path ∨
      event.path <+: place.path) : Encloses (front ++ (events ++ back)) place := by
  obtain ⟨before, inside, after, rfl, deeper, notDeeper⟩ := encloses
  refine ⟨front ++ before, inside, after ++ back, by simp, deeper, ?_⟩
  intro event mem
  have either : event ∈ before ++ after ∨ event ∈ front ++ back := by
    simp only [List.mem_append] at mem ⊢
    grind
  rcases either with near | far
  · exact notDeeper event near
  · apply Bool.eq_false_iff.mpr
    intro below
    rcases outside event far with apart | above
    · exact apart (prefix_of_isBelow below)
    · exact not_prefix_of_isBelow below above

mutual

theorem Outline.encloses {outline : Outline} (nested : outline.Nested) (apart : outline.Apart)
    {place : Context} (entered : .enter place ∈ outline.events) :
    Encloses outline.events place := by
  match outline with
  | .node top below =>
      simp only [Outline.events, List.mem_cons, List.mem_append, List.not_mem_nil, or_false,
        reduceCtorEq, or_self] at entered
      rcases entered with same | inside
      · cases same
        exact ⟨[], below.events, [], rfl, Branches.isBelow_of_mem_events nested, by simp⟩
      · have deeper := Branches.isBelow_of_mem_events nested _ inside
        apply (Branches.encloses nested apart inside).surround [.enter top] [.leave top]
        intro event mem
        right
        have atTop : event.path = top.path := by
          rcases List.mem_cons.mp mem with rfl | last
          · rfl
          · rw [List.mem_singleton.mp last]
            rfl
        rw [atTop]
        exact prefix_of_isBelow deeper

theorem Branches.encloses {branches : Branches} {path : List Step}
    (nested : branches.NestedIn path) (apart : branches.Apart) {place : Context}
    (entered : .enter place ∈ branches.events) : Encloses branches.events place := by
  match branches with
  | .finished => cases entered
  | .failed _ => cases entered
  | .branch announcement first rest =>
      obtain ⟨_, nestedFirst, nestedRest⟩ := id nested
      obtain ⟨_, apartFirst, apartRest⟩ := id apart
      have notAnnounced : .enter place ≠ announcement.event first.place := by
        cases announcement <;> exact fun same => nomatch same
      simp only [Branches.events, List.mem_cons, notAnnounced, List.mem_append, false_or]
        at entered
      rcases entered with inFirst | inRest
      · have reaches : first.place.path <+: place.path :=
          Outline.prefix_of_mem_events nestedFirst _ inFirst
        apply (first.encloses nestedFirst apartFirst inFirst).surround
          [announcement.event first.place] rest.events
        intro event mem
        rcases List.mem_append.mp mem with announced | later
        · right
          rw [List.mem_singleton.mp announced, Announcement.event_path]
          exact reaches
        · left
          obtain ⟨other, among, behind⟩ := Branches.place_of_mem_events nestedRest event later
          exact (Branches.not_prefix_of_apart nested apart reaches among behind).1
      · obtain ⟨other, among, reaches⟩ := Branches.place_of_mem_events nestedRest _ inRest
        have surrounded := (rest.encloses nestedRest apartRest inRest).surround
          (announcement.event first.place :: first.events) [] (by
            intro event mem
            left
            rw [List.append_nil] at mem
            have behind : first.place.path <+: event.path := by
              rcases List.mem_cons.mp mem with rfl | inFirst
              · exact announcement.prefix_event_path first.place
              · exact Outline.prefix_of_mem_events nestedFirst event inFirst
            exact (Branches.not_prefix_of_apart nested apart behind among reaches).2)
        simpa [Branches.events] using surrounded

end

/-! ## Outlines of documents -/

theorem documentOutline_eq {schema : Schema} {document : Json} {outline : Outline}
    (found : documentOutline schema document = .ok outline) :
    ∃ place, context schema [] (some schema.root) document none none = .ok place ∧
      Walk.outline schema place document = outline := by
  unfold documentOutline at found
  cases root : context schema [] (some schema.root) document none none with
  | error cycle =>
      rw [root] at found
      cases found
  | ok place =>
      rw [root] at found
      cases found
      exact ⟨place, rfl, rfl⟩

theorem documentOutline_nested {schema : Schema} {document : Json} {outline : Outline}
    (found : documentOutline schema document = .ok outline) : outline.Nested := by
  obtain ⟨place, _, rfl⟩ := documentOutline_eq found
  exact outline_nested schema place document

theorem documentOutline_apart {schema : Schema} {document : Json} {outline : Outline}
    (found : documentOutline schema document = .ok outline)
    (distinct : document.KeysDistinct) : outline.Apart := by
  obtain ⟨place, _, rfl⟩ := documentOutline_eq found
  exact branches_apart distinct place

end Walk

end Pipewright
