import Pipewright.Proofs.Walk.Paths

/-!
# Vetoes only prune

An observer that does not want to look below a place hears what a full walk would let it
hear, less the events that its answers cut off: those strictly below a place where it
stopped, and, where it passed over a property, also entering and leaving that property.
-/

namespace Pipewright

namespace Walk

/-- Is a place announced by the event? -/
def Event.isAnnouncement : Event → Bool
  | .property _ => true
  | .item _ _ => true
  | .enter _ => false
  | .leave _ => false

/-- Does the answer to an event cut off another event?  Stopping at a place cuts off what
is strictly below it.  Passing over a property also cuts off entering and leaving it. -/
def Heard.cuts (cause : Heard) (event : Event) : Bool :=
  match cause.event, cause.answer with
  | .enter place, .stop => isBelow event.path place.path
  | .property place, .stop =>
      isBelow event.path place.path ||
        (event.path == place.path && !event.isAnnouncement)
  | _, _ => false

/-- The events that no answer of a record cuts off. -/
def prune (record : List Heard) (events : List Event) : List Event :=
  events.filter fun event => !record.any (·.cuts event)

variable {State : Type} {observer : Observer State}

/-! ## What is cut off -/

theorem Heard.prefix_of_cuts {cause : Heard} {event : Event} (cut : cause.cuts event = true) :
    cause.event.path <+: event.path := by
  obtain ⟨cause, answer⟩ := cause
  cases cause with
  | enter place =>
      cases answer with
      | «continue» => cases cut
      | stop => exact prefix_of_isBelow cut
  | property place =>
      cases answer with
      | «continue» => cases cut
      | stop =>
          simp only [Heard.cuts, Bool.or_eq_true, Bool.and_eq_true, beq_iff_eq] at cut
          rcases cut with below | ⟨same, _⟩
          · exact prefix_of_isBelow below
          · exact same ▸ List.prefix_rfl
  | item place position => cases cut
  | leave place => cases cut

theorem Heard.cuts_eq_false {cause : Heard} {event : Event}
    (elsewhere : ¬ cause.event.path <+: event.path) : cause.cuts event = false := by
  rw [← Bool.not_eq_true]
  intro cut
  exact elsewhere (prefix_of_cuts cut)

theorem Heard.cuts_of_continue (event event' : Event) :
    (Heard.mk event .continue).cuts event' = false := by
  cases event <;> rfl

/-- Entering and leaving a place are cut off together. -/
theorem Heard.cuts_leave (cause : Heard) (place : Context) :
    cause.cuts (.leave place) = cause.cuts (.enter place) := by
  obtain ⟨event, answer⟩ := cause
  cases event <;> cases answer <;> rfl

theorem prune_append (record : List Heard) (front back : List Event) :
    prune record (front ++ back) = prune record front ++ prune record back :=
  List.filter_append front back

theorem prune_subset (record : List Heard) (events : List Event) :
    prune record events ⊆ events :=
  List.filter_sublist.subset

theorem prune_eq_nil {record : List Heard} {events : List Event}
    (cut : ∀ event ∈ events, ∃ cause ∈ record, cause.cuts event = true) :
    prune record events = [] := by
  apply List.filter_eq_nil_iff.mpr
  intro event mem
  obtain ⟨cause, recorded, cuts⟩ := cut event mem
  have any : record.any (·.cuts event) = true := List.any_eq_true.mpr ⟨cause, recorded, cuts⟩
  simp [any]

/-- No answer of the record cuts off one of the events. -/
def Spares (record : List Heard) (events : List Event) : Prop :=
  ∀ cause ∈ record, ∀ event ∈ events, cause.cuts event = false

theorem Spares.any_eq_false {record : List Heard} {events : List Event}
    (spares : Spares record events) {event : Event} (mem : event ∈ events) :
    record.any (·.cuts event) = false := by
  apply List.any_eq_false.mpr
  intro cause recorded
  simp [spares cause recorded event mem]

theorem prune_of_spares {record : List Heard} {events : List Event}
    (spares : Spares record events) : prune record events = events := by
  apply List.filter_eq_self.mpr
  intro event mem
  rw [spares.any_eq_false mem]
  rfl

theorem prune_drop_left {more record : List Heard} {events : List Event}
    (spares : Spares more events) : prune (more ++ record) events = prune record events := by
  apply List.filter_congr
  intro event mem
  rw [List.any_append, spares.any_eq_false mem, Bool.false_or]

theorem prune_drop_right {record more : List Heard} {events : List Event}
    (spares : Spares more events) : prune (record ++ more) events = prune record events := by
  apply List.filter_congr
  intro event mem
  rw [List.any_append, spares.any_eq_false mem, Bool.or_false]

theorem spares_of_continue (event : Event) (events : List Event) :
    Spares [⟨event, .continue⟩] events := by
  intro cause recorded event' _
  rw [List.mem_singleton.mp recorded]
  exact Heard.cuts_of_continue event event'

theorem prune_cons_of_continue (event : Event) (record : List Heard) (events : List Event) :
    prune (⟨event, .continue⟩ :: record) events = prune record events :=
  prune_drop_left (spares_of_continue event events)

/-- To stop at a place cuts off nothing at the place itself. -/
theorem Heard.cuts_of_stop {place : Context} {event : Event}
    (atPlace : event.path = place.path) :
    (Heard.mk (.enter place) .stop).cuts event = false := by
  apply Bool.eq_false_iff.mpr
  intro cut
  exact not_prefix_of_isBelow cut (atPlace ▸ List.prefix_rfl)

theorem spares_of_stop {place : Context} {event : Event} (atPlace : event.path = place.path) :
    Spares [⟨.enter place, .stop⟩] [event] := by
  intro cause recorded event' mem
  rw [List.mem_singleton.mp recorded, List.mem_singleton.mp mem]
  exact Heard.cuts_of_stop atPlace

/-- What is heard below a path cuts off nothing at the path. -/
theorem spares_of_below {record : List Heard} {path : List Step}
    (below : ∀ cause ∈ record, isBelow cause.event.path path = true) (event : Event)
    (atPath : event.path = path) : Spares record [event] := by
  intro cause recorded event' mem
  rw [List.mem_singleton.mp mem]
  apply Heard.cuts_eq_false
  rw [atPath]
  exact not_prefix_of_isBelow (below cause recorded)

/-! ## Pruning an outline -/

section Pruned

variable {place : Context} {below : Branches} {record : List Heard}

theorem isBelow_of_recorded (nested : below.NestedIn place.path)
    (inside : record.map (·.event) ⊆ below.events) :
    ∀ cause ∈ record, isBelow cause.event.path place.path = true := by
  intro cause recorded
  apply Branches.isBelow_of_mem_events nested
  exact inside (List.mem_map_of_mem recorded)

/-- The answers of a walk below a place cut off neither entering nor leaving it. -/
theorem prune_node (nested : below.NestedIn place.path)
    (inside : record.map (·.event) ⊆ below.events) :
    prune (⟨.enter place, .continue⟩ :: (record ++ [⟨.leave place, .continue⟩]))
        (Outline.node place below).events =
      .enter place :: (prune record below.events ++ [.leave place]) := by
  have deeper := isBelow_of_recorded nested inside
  rw [prune_cons_of_continue, prune_drop_right (spares_of_continue _ _), Outline.events,
    ← List.singleton_append, prune_append, prune_append,
    prune_of_spares (spares_of_below deeper (.enter place) rfl),
    prune_of_spares (spares_of_below deeper (.leave place) rfl),
    List.singleton_append]

/-- What is strictly below a place is cut off where the walk stops there. -/
theorem prune_stopped (nested : below.NestedIn place.path) :
    prune [⟨.enter place, .stop⟩, ⟨.leave place, .continue⟩]
        (Outline.node place below).events =
      [.enter place, .leave place] := by
  have cut : ∀ event ∈ below.events,
      ∃ cause ∈ [Heard.mk (.enter place) .stop], cause.cuts event = true := by
    intro event mem
    exact ⟨_, List.mem_singleton_self _, Branches.isBelow_of_mem_events nested event mem⟩
  have atPlace : ∀ event : Event, event.path = place.path →
      prune [⟨.enter place, .stop⟩] [event] = [event] :=
    fun _ same => prune_of_spares (spares_of_stop same)
  have record : [⟨.enter place, .stop⟩, ⟨.leave place, .continue⟩] =
      [Heard.mk (.enter place) .stop] ++ [⟨.leave place, .continue⟩] := rfl
  have events : (Outline.node place below).events =
      [.enter place] ++ (below.events ++ [.leave place]) := rfl
  rw [record, prune_drop_right (spares_of_continue _ _), events, prune_append, prune_append,
    prune_eq_nil cut, atPlace (.enter place) rfl, atPlace (.leave place) rfl]
  rfl

/-- A whole outline is cut off where its place is passed over. -/
theorem prune_passed (nested : below.NestedIn place.path) :
    prune [⟨.property place, .stop⟩] (Outline.node place below).events = [] := by
  apply prune_eq_nil
  intro event mem
  refine ⟨_, List.mem_singleton_self _, ?_⟩
  simp only [Outline.events, List.mem_cons, List.mem_append, List.not_mem_nil, or_false] at mem
  rcases mem with rfl | inside | rfl
  · simp [Heard.cuts, Event.path, Event.place, Event.isAnnouncement]
  · simp [Heard.cuts, Branches.isBelow_of_mem_events nested event inside]
  · simp [Heard.cuts, Event.path, Event.place, Event.isAnnouncement]

end Pruned

section Branched

variable {announcement : Announcement} {first : Outline} {rest : Branches}
  {path : List Step} {said : Heard} {inFirst inRest : List Heard}

/-- What is heard of a place after its announcement does not cut off the announcement. -/
theorem spares_announcement (nested : first.Nested)
    (inside : inFirst.map (·.event) ⊆ first.events) :
    Spares inFirst [announcement.event first.place] := by
  intro cause recorded event mem
  rw [List.mem_singleton.mp mem]
  have among : cause.event ∈ first.events := inside (List.mem_map_of_mem recorded)
  obtain ⟨place, below⟩ := first
  simp only [Outline.events, List.mem_cons, List.mem_append, List.not_mem_nil, or_false]
    at among
  obtain ⟨event, answer⟩ := cause
  rcases among with entered | deeper | left
  · simp only at entered
    subst entered
    cases answer with
    | «continue» => exact Heard.cuts_of_continue _ _
    | stop => exact Heard.cuts_of_stop (Announcement.event_path announcement place)
  · apply Heard.cuts_eq_false
    rw [Announcement.event_path]
    exact not_prefix_of_isBelow (Branches.isBelow_of_mem_events nested event deeper)
  · simp only at left
    subst left
    cases answer <;> rfl

theorem spares_of_announced (announces : said.event = announcement.event first.place) :
    Spares [said] [announcement.event first.place] := by
  intro cause recorded event mem
  rw [List.mem_singleton.mp mem, List.mem_singleton.mp recorded]
  obtain ⟨event, answer⟩ := said
  simp only at announces
  subst announces
  cases announcement <;> cases answer <;>
    simp [Heard.cuts, Announcement.event, Event.path, Event.place, Event.isAnnouncement, isBelow]

/-- Answers behind a path cut off nothing behind a path that is apart. -/
theorem spares_of_apart {record : List Heard} {events : List Event}
    (apart : ∀ cause ∈ record, ∀ event ∈ events, ¬ cause.event.path <+: event.path) :
    Spares record events := by
  intro cause recorded event mem
  exact Heard.cuts_eq_false (apart cause recorded event mem)

/-- Of a place and the later ones beside it, each is pruned by what is heard of it. -/
theorem prune_branch (nested : (Branches.branch announcement first rest).NestedIn path)
    (apart : (Branches.branch announcement first rest).Apart)
    (announces : said.event = announcement.event first.place)
    (insideFirst : inFirst.map (·.event) ⊆ first.events)
    (insideRest : inRest.map (·.event) ⊆ rest.events) :
    prune (said :: (inFirst ++ inRest)) (Branches.branch announcement first rest).events =
      announcement.event first.place ::
        (prune (said :: inFirst) first.events ++ prune inRest rest.events) := by
  obtain ⟨_, nestedFirst, nestedRest⟩ := id nested
  have saidPath : first.place.path <+: said.event.path := by
    rw [announces]
    exact announcement.prefix_event_path first.place
  have firstPath : ∀ cause ∈ said :: inFirst, first.place.path <+: cause.event.path := by
    intro cause recorded
    rcases List.mem_cons.mp recorded with rfl | recorded
    · exact saidPath
    · exact Outline.prefix_of_mem_events nestedFirst _
        (insideFirst (List.mem_map_of_mem recorded))
  have sparesRest : Spares (said :: inFirst) rest.events := by
    apply spares_of_apart
    intro cause recorded event mem
    obtain ⟨place, among, reaches⟩ := Branches.place_of_mem_events nestedRest event mem
    exact (Branches.not_prefix_of_apart nested apart (firstPath cause recorded) among reaches).1
  have sparesFirst : ∀ events : List Event,
      (∀ event ∈ events, first.place.path <+: event.path) → Spares inRest events := by
    intro events reachesFirst
    apply spares_of_apart
    intro cause recorded event mem
    obtain ⟨place, among, reaches⟩ := Branches.place_of_mem_events nestedRest cause.event
      (insideRest (List.mem_map_of_mem recorded))
    exact (Branches.not_prefix_of_apart nested apart (reachesFirst event mem) among reaches).2
  have events : (Branches.branch announcement first rest).events =
      [announcement.event first.place] ++ (first.events ++ rest.events) := rfl
  have front : said :: (inFirst ++ inRest) = (said :: inFirst) ++ inRest := rfl
  have singled : said :: inFirst = [said] ++ inFirst := rfl
  rw [events, front, prune_append, prune_append, prune_drop_left sparesRest,
    prune_drop_right (sparesFirst first.events (Outline.prefix_of_mem_events nestedFirst)),
    prune_drop_right (sparesFirst _ (by simp)), singled,
    prune_drop_left (spares_of_announced announces),
    prune_of_spares (spares_announcement nestedFirst insideFirst)]
  rfl

end Branched

/-! ## Walks with vetoes -/

/-- A walk succeeded, and its record went on with what was heard of the events. -/
def Prunes (outcome : Outcome (State × List Heard)) (record : List Heard)
    (events : List Event) : Prop :=
  ∃ final heard, outcome = ((final, record ++ heard), .ok ()) ∧
    heard.map (·.event) = prune heard events

mutual

/-- Of an outline that can be walked whole, an observer hears what its answers do not
cut off. -/
theorem Outline.run_prunes {outline : Outline} (nested : outline.Nested)
    (apart : outline.Apart) (checks : outline.check = .ok ()) (state : State)
    (record : List Heard) :
    Prunes (outline.run observer.recorded (state, record)) record outline.events := by
  match outline with
  | .node place below =>
      have entered := recorded_enter observer state record place
      cases flow : (observer.enter state place).2 with
      | stop =>
          rw [flow] at entered
          rw [Outline.run_of_stop entered]
          refine ⟨observer.leave (observer.enter state place).1 place,
            [⟨.enter place, .stop⟩, ⟨.leave place, .continue⟩], ?_,
            (prune_stopped nested).symm⟩
          simp [Observer.recorded]
      | «continue» =>
          rw [flow] at entered
          obtain ⟨final, heard, ran, same⟩ := Branches.run_prunes
            nested apart checks (observer.enter state place).1
            (record ++ [⟨.enter place, .continue⟩])
          have inside : heard.map (·.event) ⊆ below.events := same ▸ prune_subset _ _
          rw [Outline.run_of_continue entered, ran]
          refine ⟨observer.leave final place,
            ⟨.enter place, .continue⟩ :: (heard ++ [⟨.leave place, .continue⟩]), ?_, ?_⟩
          · simp [andThen, Observer.recorded]
          · rw [prune_node nested inside, ← same]
            simp

theorem Branches.run_prunes {branches : Branches} {path : List Step}
    (nested : branches.NestedIn path) (apart : branches.Apart)
    (checks : branches.check = .ok ()) (state : State) (record : List Heard) :
    Prunes (branches.run observer.recorded (state, record)) record branches.events := by
  match branches with
  | .finished => exact ⟨state, [], by simp [Branches.run], rfl⟩
  | .failed cycle => cases checks
  | .branch announcement first rest =>
      obtain ⟨_, nestedFirst, nestedRest⟩ := id nested
      obtain ⟨_, apartFirst, apartRest⟩ := id apart
      obtain ⟨checksFirst, checksRest⟩ := Branches.check_branch checks
      have announced := announce_recorded observer announcement first.place state record
      cases flow : (announcement.announce observer first.place state).2 with
      | stop =>
          rw [flow] at announced
          rw [Branches.run_of_stop announced]
          obtain ⟨final, heard, ran, same⟩ := Branches.run_prunes
            nestedRest apartRest checksRest
            (announcement.announce observer first.place state).1
            (record ++ [⟨announcement.event first.place, .stop⟩])
          have inside : heard.map (·.event) ⊆ rest.events := same ▸ prune_subset _ _
          refine ⟨final, ⟨announcement.event first.place, .stop⟩ :: heard, ?_, ?_⟩
          · simpa using ran
          · have passed : prune [⟨announcement.event first.place, .stop⟩] first.events = [] := by
              obtain ⟨place, below⟩ := first
              cases announcement with
              | property => exact prune_passed nestedFirst
              | item position => cases flow
            have silent : [].map Heard.event ⊆ first.events := List.nil_subset _
            have pruned := prune_branch nested apart
              (rfl : (Heard.mk (announcement.event first.place) .stop).event = _) silent inside
            rw [List.nil_append, passed, List.nil_append, ← same] at pruned
            exact pruned.symm
      | «continue» =>
          rw [flow] at announced
          rw [Branches.run_of_continue announced]
          obtain ⟨middle, inFirst, ranFirst, sameFirst⟩ := Outline.run_prunes
            nestedFirst apartFirst checksFirst
            (announcement.announce observer first.place state).1
            (record ++ [⟨announcement.event first.place, .continue⟩])
          obtain ⟨final, inRest, ranRest, sameRest⟩ := Branches.run_prunes
            nestedRest apartRest checksRest middle
            (record ++ [⟨announcement.event first.place, .continue⟩] ++ inFirst)
          have insideFirst : inFirst.map (·.event) ⊆ first.events :=
            sameFirst ▸ prune_subset _ _
          have insideRest : inRest.map (·.event) ⊆ rest.events := sameRest ▸ prune_subset _ _
          refine ⟨final, ⟨announcement.event first.place, .continue⟩ :: (inFirst ++ inRest),
            ?_, ?_⟩
          · rw [ranFirst]
            simpa [andThen] using ranRest
          · rw [prune_branch nested apart rfl insideFirst insideRest, prune_cons_of_continue,
              ← sameFirst, ← sameRest]
            simp

end

variable {schema : Schema} {document : Json} {outline : Outline}

/-- Of a document that can be walked, an observer hears what its answers do not cut
off. -/
theorem heard_eq_prune (distinct : document.KeysDistinct)
    (found : documentOutline schema document = .ok outline) (checks : outline.check = .ok ())
    (observer : Observer State) (state : State) :
    (walk document schema observer state).2 = .ok () ∧
      (heard document schema observer state).map (·.event) =
        prune (heard document schema observer state) outline.events := by
  have same : walk document schema observer.recorded (state, []) = _ := walk_recorded state
  obtain ⟨final, record, ran, pruned⟩ :
      Prunes (outline.run observer.recorded (state, [])) [] outline.events :=
    outline.run_prunes (documentOutline_nested found) (documentOutline_apart found distinct)
      checks state []
  rw [walk_eq_run, found] at same
  simp only [ran, List.nil_append] at same
  obtain ⟨states, result⟩ := Prod.mk.inj same
  obtain ⟨_, records⟩ := Prod.mk.inj states
  rw [← records, ← result]
  exact ⟨rfl, pruned⟩

/-- An observer that always went on has heard of everything. -/
theorem heard_eq_events (distinct : document.KeysDistinct)
    (found : documentOutline schema document = .ok outline) (checks : outline.check = .ok ())
    {observer : Observer State} {state : State}
    (unstopped : ∀ entry ∈ heard document schema observer state, entry.answer = .continue) :
    (heard document schema observer state).map (·.event) = outline.events := by
  rw [(heard_eq_prune distinct found checks observer state).2]
  apply prune_of_spares
  intro cause recorded event _
  obtain ⟨said, answer⟩ := cause
  obtain rfl : answer = .continue := unstopped _ recorded
  exact Heard.cuts_of_continue said event

end Walk

open Walk

/-- What is heard of a document where nobody wants to stop. -/
def fullWalk (document : Json) (schema : Schema) : List Event :=
  (heard document schema (Observer.silent Unit) ()).map (·.event)

namespace Walk

mutual

/-- An observer that never answers that it wants to stop records the whole outline. -/
theorem Outline.run_silent (outline : Outline) (record : List Heard)
    (checks : outline.check = .ok ()) :
    outline.run (Observer.silent Unit).recorded ((), record) =
      (((), record ++ outline.events.map fun event => ⟨event, .continue⟩), .ok ()) := by
  match outline with
  | .node place below =>
      rw [Outline.run, recorded_enter]
      change andThen (below.run (Observer.silent Unit).recorded _) _ = _
      rw [Branches.run_silent below _ checks]
      simp [andThen, Outline.events, Observer.recorded, Observer.silent]

theorem Branches.run_silent (branches : Branches) (record : List Heard)
    (checks : branches.check = .ok ()) :
    branches.run (Observer.silent Unit).recorded ((), record) =
      (((), record ++ branches.events.map fun event => ⟨event, .continue⟩), .ok ()) := by
  match branches with
  | .finished => simp [Branches.run, Branches.events]
  | .failed _ => cases checks
  | .branch announcement first rest =>
      obtain ⟨checksFirst, checksRest⟩ := Branches.check_branch checks
      have goesOn : (announcement.announce (Observer.silent Unit) first.place ()).2 =
          .continue := by cases announcement <;> rfl
      rw [Branches.run, announce_recorded, goesOn]
      change andThen (first.run (Observer.silent Unit).recorded _) _ = _
      rw [Outline.run_silent first _ checksFirst]
      change rest.run (Observer.silent Unit).recorded _ = _
      rw [Branches.run_silent rest _ checksRest]
      simp [Branches.events]

end

theorem fullWalk_eq_events {schema : Schema} {document : Json} {outline : Outline}
    (found : documentOutline schema document = .ok outline) (checks : outline.check = .ok ()) :
    fullWalk document schema = outline.events := by
  rw [fullWalk, heard, walk_eq_run, found]
  simp only [outline.run_silent [] checks]
  simp [Function.comp_def]

end Walk

/-- On a document that can be walked, every observer's walk succeeds.  It hears the full
walk in order, less what its answers cut off.  Of a place that it entered it also hears
that it is left. -/
theorem vetoes_only_prune {State : Type} {schema : Schema} {document : Json}
    (distinct : document.KeysDistinct) (checked : checkDocument document schema = .ok ())
    (observer : Observer State) (state : State) :
    (walk document schema observer state).2 = .ok () ∧
      (heard document schema observer state).map (·.event) =
        prune (heard document schema observer state) (fullWalk document schema) ∧
      ∀ place answer, ⟨.enter place, answer⟩ ∈ heard document schema observer state →
        .leave place ∈ (heard document schema observer state).map (·.event) := by
  obtain ⟨outline, found, checks⟩ := exists_documentOutline_of_checked checked
  obtain ⟨succeeded, pruned⟩ := heard_eq_prune distinct found checks observer state
  have full : fullWalk document schema = outline.events :=
    heard_eq_events distinct found checks (answers_of_silent ())
  refine ⟨succeeded, by rw [full, pruned], ?_⟩
  intro place answer recorded
  have entered : .enter place ∈ (heard document schema observer state).map (·.event) :=
    List.mem_map_of_mem recorded
  rw [pruned] at entered ⊢
  obtain ⟨among, spared⟩ := List.mem_filter.mp entered
  obtain ⟨before, inside, after, split, _⟩ := outline.encloses (documentOutline_nested found)
    (documentOutline_apart found distinct) among
  apply List.mem_filter.mpr
  constructor
  · rw [split]
    simp
  · simpa [Heard.cuts_leave] using spared

/-- An observer that stops at some places, and passes over some properties. -/
def Observer.stopsAt (entered passed : List (List Step)) : Observer Unit where
  enter _ place := ((), if place.path ∈ entered then .stop else .continue)
  leave _ _ := ()
  property _ place := ((), if place.path ∈ passed then .stop else .continue)
  item _ _ _ := ()

theorem checkDocument_workflow : checkDocument workflow workflowSchema = .ok () := by
  rw [checkDocument_eq, documentOutline_workflow]
  rfl

/-- Of a workflow, an observer that stops at the jobs and passes over the triggers hears
the jobs and the options. -/
theorem vetoes_only_prune_of_workflow :
    let observer := Observer.stopsAt [[.key "jobs"]] [[.key "on"]]
    let record := heard workflow workflowSchema observer ()
    workflow.KeysDistinct ∧ checkDocument workflow workflowSchema = .ok () ∧
      record.map (·.event) = prune record (fullWalk workflow workflowSchema) ∧
      record.map (fun entry => (entry.event.path, entry.answer)) =
        [([], .continue), ([.key "jobs"], .continue), ([.key "jobs"], .stop),
          ([.key "jobs"], .continue), ([.key "on"], .stop), ([.key "with"], .continue),
          ([.key "with"], .continue), ([.key "with"], .continue), ([], .continue)] := by
  intro observer record
  obtain ⟨_, pruned, _⟩ :=
    vetoes_only_prune workflow_distinct checkDocument_workflow observer ()
  refine ⟨workflow_distinct, checkDocument_workflow, pruned, ?_⟩
  unfold record heard
  rw [walk_eq_run, documentOutline_workflow]
  rfl

end Pipewright
