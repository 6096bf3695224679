import Pipewright.Proofs.Json.Keys
import Pipewright.Proofs.Resolution.Runs
import Pipewright.Proofs.Walk.Outline

/-!
# What observers hear

Any observer can be made to record what it hears and how it answers.  A recording
observer walks as the observer does, and its record only grows.

The full walk below a place comes to every place of its outline.  It is what an
observer hears that never answers that it wants to stop.
-/

namespace Pipewright

namespace Walk

/-- What an observer can hear. -/
inductive Event where
  | enter (place : Context)
  | property (place : Context)
  | item (place : Context) (position : Nat)
  | leave (place : Context)

/-- The place that is entered, announced or left. -/
def Event.place : Event → Context
  | .enter place => place
  | .property place => place
  | .item place _ => place
  | .leave place => place

/-- The path to the place that is entered, announced or left. -/
def Event.path (event : Event) : List Step :=
  event.place.path

/-- An event and the answer to it, which is to go on where no answer is asked for. -/
structure Heard where
  event : Event
  answer : Flow

end Walk

open Walk

namespace Observer

variable {State : Type}

/-- The observer, which also records what it hears and answers. -/
def recorded (observer : Observer State) : Observer (State × List Heard) where
  enter state place :=
    let answered := observer.enter state.1 place
    ((answered.1, state.2 ++ [⟨.enter place, answered.2⟩]), answered.2)
  leave state place :=
    (observer.leave state.1 place, state.2 ++ [⟨.leave place, .continue⟩])
  property state place :=
    let answered := observer.property state.1 place
    ((answered.1, state.2 ++ [⟨.property place, answered.2⟩]), answered.2)
  item state place position :=
    (observer.item state.1 place position, state.2 ++ [⟨.item place position, .continue⟩])

/-- Every reaction of the observer leads to a later state. -/
structure Advances (observer : Observer State) (earlier : State → State → Prop) : Prop where
  refl : ∀ state, earlier state state
  trans : ∀ {first second third}, earlier first second → earlier second third →
    earlier first third
  enter : ∀ state place, earlier state (observer.enter state place).1
  leave : ∀ state place, earlier state (observer.leave state place)
  property : ∀ state place, earlier state (observer.property state place).1
  item : ∀ state place position, earlier state (observer.item state place position)

/-- In related states two observers answer alike and come to related states. -/
structure Simulates {Other : Type} (observer : Observer State) (other : Observer Other)
    (related : State → Other → Prop) : Prop where
  enter : ∀ {state state'} place, related state state' →
    related (observer.enter state place).1 (other.enter state' place).1 ∧
      (observer.enter state place).2 = (other.enter state' place).2
  leave : ∀ {state state'} place, related state state' →
    related (observer.leave state place) (other.leave state' place)
  property : ∀ {state state'} place, related state state' →
    related (observer.property state place).1 (other.property state' place).1 ∧
      (observer.property state place).2 = (other.property state' place).2
  item : ∀ {state state'} place position, related state state' →
    related (observer.item state place position) (other.item state' place position)

end Observer

/-- What an observer hears and answers on a walk, in order. -/
def heard {State : Type} (document : Json) (schema : Schema) (observer : Observer State)
    (state : State) : List Heard :=
  (walk document schema observer.recorded (state, [])).1.2

namespace Walk

variable {State : Type} {observer : Observer State}

/-! ## Walks of outlines -/

/-- The outline of a document. -/
def documentOutline (schema : Schema) (document : Json) : Resolved Outline :=
  (context schema [] (some schema.root) document none none).map fun place =>
    outline schema place document

/-- Walking a document is walking its outline, if its root can be resolved. -/
theorem walk_eq_run {schema : Schema} {document : Json} (state : State) :
    walk document schema observer state =
      match documentOutline schema document with
      | .error cycle => (state, .error cycle)
      | .ok outline => outline.run observer state := by
  unfold walk documentOutline
  cases context schema [] (some schema.root) document none none with
  | error cycle => rfl
  | ok place => exact visit_eq_run place document state

mutual

/-- Does a walk of the whole outline succeed? -/
def Outline.check : Outline → Resolved Unit
  | .node _ below => below.check

/-- Does a walk of all the branches succeed? -/
def Branches.check : Branches → Resolved Unit
  | .finished => .ok ()
  | .failed cycle => .error cycle
  | .branch _ first rest =>
      match first.check with
      | .error cycle => .error cycle
      | .ok () => rest.check

end

theorem Branches.check_branch {announcement : Announcement} {first : Outline}
    {rest : Branches} (checks : (Branches.branch announcement first rest).check = .ok ()) :
    first.check = .ok () ∧ rest.check = .ok () := by
  rw [Branches.check] at checks
  split at checks
  · cases checks
  · next checksFirst => exact ⟨checksFirst, checks⟩

theorem of_check_memberBranches {schema : Schema} {container : Context} {node : Node}
    {key : String} {value : Json} {rest : Members}
    (checks : (memberBranches schema container node ((key, value) :: rest)).check = .ok ()) :
    ∃ place, memberContext schema container node key value = .ok place ∧
      (branches schema place value).check = .ok () ∧
      (memberBranches schema container node rest).check = .ok () ∧
      memberBranches schema container node ((key, value) :: rest) =
        .branch .property (outline schema place value)
          (memberBranches schema container node rest) := by
  rw [memberBranches] at checks ⊢
  split at checks
  · cases checks
  · next place found =>
      obtain ⟨checksFirst, checksRest⟩ := Branches.check_branch checks
      exact ⟨place, found, checksFirst, checksRest, rfl⟩

theorem of_check_itemBranches {schema : Schema} {container : Context} {node : Node}
    {position : Nat} {value : Json} {rest : List Json}
    (checks : (itemBranches schema container node position (value :: rest)).check = .ok ()) :
    ∃ place, itemContext schema container node position value = .ok place ∧
      (branches schema place value).check = .ok () ∧
      (itemBranches schema container node (position + 1) rest).check = .ok () ∧
      itemBranches schema container node position (value :: rest) =
        .branch (.item position) (outline schema place value)
          (itemBranches schema container node (position + 1) rest) := by
  rw [itemBranches] at checks ⊢
  split at checks
  · cases checks
  · next place found =>
      obtain ⟨checksFirst, checksRest⟩ := Branches.check_branch checks
      exact ⟨place, found, checksFirst, checksRest, rfl⟩

/-- The announcement of a place. -/
def Announcement.event (announcement : Announcement) (place : Context) : Event :=
  match announcement with
  | .property => .property place
  | .item position => .item place position

mutual

/-- What is heard of a walk of the whole outline. -/
def Outline.events : Outline → List Event
  | .node place below => .enter place :: (below.events ++ [.leave place])

/-- What is heard of a walk of all the branches. -/
def Branches.events : Branches → List Event
  | .finished => []
  | .failed _ => []
  | .branch announcement first rest =>
      announcement.event first.place :: (first.events ++ rest.events)

end

/-! ## Advancing -/

section Advancing

variable {earlier : State → State → Prop}

theorem Announcement.announce_advances (advances : observer.Advances earlier)
    (announcement : Announcement) (place : Context) (state : State) :
    earlier state (announcement.announce observer place state).1 := by
  cases announcement with
  | property => exact advances.property state place
  | item position => exact advances.item state place position

theorem descend_advances (advances : observer.Advances earlier) (answered : State × Flow)
    {below : State → Outcome State} (advancing : ∀ state, earlier state (below state).1) :
    earlier answered.1 (descend answered below).1 := by
  obtain ⟨state, flow⟩ := answered
  cases flow with
  | «continue» => exact advancing state
  | stop => exact advances.refl state

theorem andThen_advances (advances : observer.Advances earlier) (outcome : Outcome State)
    {next : State → Outcome State} (advancing : ∀ state, earlier state (next state).1) :
    earlier outcome.1 (andThen outcome next).1 := by
  obtain ⟨state, result⟩ := outcome
  cases result with
  | error cycle => exact advances.refl state
  | ok _ => exact advancing state

theorem leave_advances (advances : observer.Advances earlier) (outcome : Outcome State)
    (place : Context) :
    earlier outcome.1 (andThen outcome fun state => (observer.leave state place, .ok ())).1 :=
  andThen_advances advances outcome fun state => advances.leave state place

mutual

/-- A walk leads to a later state. -/
theorem Outline.run_advances (advances : observer.Advances earlier) (outline : Outline)
    (state : State) : earlier state (outline.run observer state).1 := by
  match outline with
  | .node place below =>
      apply advances.trans (advances.enter state place)
      apply advances.trans (descend_advances advances _ (below.run_advances advances))
      exact leave_advances advances _ place

theorem Branches.run_advances (advances : observer.Advances earlier) (branches : Branches)
    (state : State) : earlier state (branches.run observer state).1 := by
  match branches with
  | .finished => exact advances.refl state
  | .failed _ => exact advances.refl state
  | .branch announcement first rest =>
      apply advances.trans (announcement.announce_advances advances first.place state)
      apply advances.trans (descend_advances advances _ (first.run_advances advances))
      exact andThen_advances advances _ (rest.run_advances advances)

end

end Advancing

/-! ## Simulation -/

section Simulation

variable {Other : Type} {other : Observer Other} {related : State → Other → Prop}
  {schema : Schema} {document : Json}

/-- Related states and the same result. -/
def Agree (related : State → Other → Prop) (outcome : Outcome State) (outcome' : Outcome Other) :
    Prop :=
  related outcome.1 outcome'.1 ∧ outcome.2 = outcome'.2

theorem Announcement.announce_simulates (simulates : observer.Simulates other related)
    (announcement : Announcement) (place : Context) {state : State} {state' : Other}
    (start : related state state') :
    related (announcement.announce observer place state).1
        (announcement.announce other place state').1 ∧
      (announcement.announce observer place state).2 =
        (announcement.announce other place state').2 := by
  cases announcement with
  | property => exact simulates.property place start
  | item position => exact ⟨simulates.item place position start, rfl⟩

theorem descend_agree {answered : State × Flow} {answered' : Other × Flow}
    {below : State → Outcome State} {below' : Other → Outcome Other}
    (alike : related answered.1 answered'.1 ∧ answered.2 = answered'.2)
    (agree : ∀ {state state'}, related state state' → Agree related (below state) (below' state')) :
    Agree related (descend answered below) (descend answered' below') := by
  obtain ⟨state, flow⟩ := answered
  obtain ⟨state', flow'⟩ := answered'
  obtain ⟨start, same⟩ := alike
  cases same
  cases flow with
  | «continue» => exact agree start
  | stop => exact ⟨start, rfl⟩

theorem andThen_agree {outcome : Outcome State} {outcome' : Outcome Other}
    {next : State → Outcome State} {next' : Other → Outcome Other}
    (alike : Agree related outcome outcome')
    (agree : ∀ {state state'}, related state state' → Agree related (next state) (next' state')) :
    Agree related (andThen outcome next) (andThen outcome' next') := by
  obtain ⟨state, result⟩ := outcome
  obtain ⟨state', result'⟩ := outcome'
  obtain ⟨start, same⟩ := alike
  cases same
  cases result with
  | error cycle => exact ⟨start, rfl⟩
  | ok _ => exact agree start

mutual

theorem Outline.run_agree (simulates : observer.Simulates other related) (outline : Outline)
    {state : State} {state' : Other} (start : related state state') :
    Agree related (outline.run observer state) (outline.run other state') := by
  match outline with
  | .node place below =>
      exact andThen_agree
        (descend_agree (simulates.enter place start) (below.run_agree simulates))
        (fun related => ⟨simulates.leave place related, rfl⟩)

theorem Branches.run_agree (simulates : observer.Simulates other related)
    (branches : Branches) {state : State} {state' : Other} (start : related state state') :
    Agree related (branches.run observer state) (branches.run other state') := by
  match branches with
  | .finished => exact ⟨start, rfl⟩
  | .failed _ => exact ⟨start, rfl⟩
  | .branch announcement first rest =>
      exact andThen_agree
        (descend_agree (announcement.announce_simulates simulates first.place start)
          (first.run_agree simulates))
        (rest.run_agree simulates)

end

/-- Observers that simulate each other come to related states and the same result. -/
theorem walk_agree (simulates : observer.Simulates other related) {state : State}
    {state' : Other} (start : related state state') :
    Agree related (walk document schema observer state) (walk document schema other state') := by
  rw [walk_eq_run, walk_eq_run]
  cases documentOutline schema document with
  | error cycle => exact ⟨start, rfl⟩
  | ok outline => exact outline.run_agree simulates start

end Simulation

/-! ## Recording -/

section Recording

variable {schema : Schema} {document : Json}

/-- A record only grows. -/
theorem recorded_advances (observer : Observer State) :
    observer.recorded.Advances fun first second => first.2 <+: second.2 where
  refl _ := List.prefix_rfl
  trans := List.IsPrefix.trans
  enter _ _ := List.prefix_append _ _
  leave _ _ := List.prefix_append _ _
  property _ _ := List.prefix_append _ _
  item _ _ _ := List.prefix_append _ _

theorem recorded_enter (observer : Observer State) (state : State) (record : List Heard)
    (place : Context) :
    observer.recorded.enter (state, record) place =
      (((observer.enter state place).1,
        record ++ [⟨.enter place, (observer.enter state place).2⟩]),
        (observer.enter state place).2) :=
  rfl

theorem announce_recorded (observer : Observer State) (announcement : Announcement)
    (place : Context) (state : State) (record : List Heard) :
    announcement.announce observer.recorded place (state, record) =
      (((announcement.announce observer place state).1,
        record ++ [⟨announcement.event place, (announcement.announce observer place state).2⟩]),
        (announcement.announce observer place state).2) := by
  cases announcement <;> rfl

/-- Recording does not change what the observer does. -/
theorem recorded_simulates (observer : Observer State) :
    observer.recorded.Simulates observer fun recorded state => recorded.1 = state where
  enter _ same := by cases same; exact ⟨rfl, rfl⟩
  leave _ same := by cases same; rfl
  property _ same := by cases same; exact ⟨rfl, rfl⟩
  item _ _ same := by cases same; rfl

/-- A walk with a recording observer ends in the state, with the record and the result
of the walk. -/
theorem walk_recorded (state : State) :
    walk document schema observer.recorded (state, []) =
      (((walk document schema observer state).1, heard document schema observer state),
        (walk document schema observer state).2) := by
  obtain ⟨same, result⟩ : Agree (fun recorded state => recorded.1 = state)
      (walk document schema observer.recorded (state, []))
      (walk document schema observer state) := walk_agree (recorded_simulates observer) rfl
  rw [← same, ← result]
  rfl

/-- An observer that only wants to go on. -/
theorem answers_of_silent (state : State) :
    ∀ entry ∈ heard document schema (Observer.silent State) state, entry.answer = .continue := by
  have advances : (Observer.silent State).recorded.Advances fun first second =>
      (∀ entry ∈ first.2, entry.answer = .continue) →
        ∀ entry ∈ second.2, entry.answer = .continue := by
    have goes_on : ∀ (record : List Heard) (event : Event),
        (∀ entry ∈ record, entry.answer = .continue) →
          ∀ entry ∈ record ++ [⟨event, .continue⟩], entry.answer = .continue := by
      intro record event before entry mem
      rcases List.mem_append.mp mem with earlier | last
      · exact before entry earlier
      · rw [List.mem_singleton.mp last]
    exact ⟨fun _ => id, fun first second => second ∘ first, fun _ _ => goes_on _ _,
      fun _ _ => goes_on _ _, fun _ _ => goes_on _ _, fun _ _ _ => goes_on _ _⟩
  unfold heard
  rw [walk_eq_run]
  cases documentOutline schema document with
  | error cycle => exact fun _ mem => nomatch mem
  | ok outline => exact outline.run_advances advances (state, []) (fun _ mem => nomatch mem)

mutual

/-- Where an observer always went on, its walk fails as the walk of the whole outline. -/
theorem Outline.run_unstopped (outline : Outline) (state : State) (record : List Heard)
    (unstopped : ∀ entry ∈ (outline.run observer.recorded (state, record)).1.2,
      entry.answer = .continue) :
    (outline.run observer.recorded (state, record)).2 = outline.check := by
  match outline with
  | .node place below =>
      have grows := recorded_advances observer
      have entered := recorded_enter observer state record place
      cases flow : (observer.enter state place).2 with
      | stop =>
          rw [flow] at entered
          rw [Outline.run_of_stop entered] at unstopped
          have answer := unstopped ⟨.enter place, .stop⟩ (by simp [Observer.recorded])
          cases answer
      | «continue» =>
          rw [flow] at entered
          rw [Outline.run_of_continue entered] at unstopped ⊢
          rw [andThen_ok, Outline.check]
          apply Branches.run_unstopped
          intro entry mem
          have left := leave_advances grows
            (below.run observer.recorded
              ((observer.enter state place).1, record ++ [⟨.enter place, .continue⟩])) place
          exact unstopped entry (left.subset mem)

theorem Branches.run_unstopped (branches : Branches) (state : State) (record : List Heard)
    (unstopped : ∀ entry ∈ (branches.run observer.recorded (state, record)).1.2,
      entry.answer = .continue) :
    (branches.run observer.recorded (state, record)).2 = branches.check := by
  match branches with
  | .finished => rfl
  | .failed cycle => rfl
  | .branch announcement first rest =>
      have grows := recorded_advances observer
      have announced := announce_recorded observer announcement first.place state record
      cases flow : (announcement.announce observer first.place state).2 with
      | stop =>
          rw [flow] at announced
          rw [Branches.run_of_stop announced] at unstopped
          have kept := rest.run_advances grows ((announcement.announce observer first.place
            state).1, record ++ [⟨announcement.event first.place, .stop⟩])
          have answer := unstopped ⟨announcement.event first.place, .stop⟩
            (kept.subset (by simp))
          cases answer
      | «continue» =>
          rw [flow] at announced
          rw [Branches.run_of_continue announced] at unstopped ⊢
          have others := andThen_advances grows
            (first.run observer.recorded ((announcement.announce observer first.place state).1,
              record ++ [⟨announcement.event first.place, .continue⟩]))
            (rest.run_advances grows)
          have checked := first.run_unstopped _ _ fun entry mem =>
            unstopped entry (others.subset mem)
          rw [Branches.check, ← checked]
          generalize first.run observer.recorded _ = outcome at unstopped ⊢
          obtain ⟨⟨final, kept⟩, result⟩ := outcome
          cases result with
          | error cycle => rfl
          | ok _ => exact rest.run_unstopped final kept unstopped

end

/-- An observer that always went on fails where some place cannot be resolved. -/
theorem walk_unstopped {state : State}
    (unstopped : ∀ entry ∈ heard document schema observer state, entry.answer = .continue) :
    (walk document schema observer state).2 =
      match documentOutline schema document with
      | .error cycle => .error cycle
      | .ok outline => outline.check := by
  have same : (walk document schema observer.recorded (state, [])).2 =
      (walk document schema observer state).2 := congrArg Prod.snd (walk_recorded state)
  unfold heard at unstopped
  rw [walk_eq_run] at same unstopped
  rw [← same]
  cases found : documentOutline schema document with
  | error cycle => rfl
  | ok outline =>
      rw [found] at unstopped
      exact outline.run_unstopped state [] unstopped

theorem checkDocument_eq :
    checkDocument document schema =
      match documentOutline schema document with
      | .error cycle => .error cycle
      | .ok outline => outline.check :=
  walk_unstopped (answers_of_silent ())

/-- Where a walk succeeded whose observer always went on, the outline of the document can
be walked whole. -/
theorem exists_documentOutline {state : State}
    (succeeded : (walk document schema observer state).2 = .ok ())
    (unstopped : ∀ entry ∈ heard document schema observer state, entry.answer = .continue) :
    ∃ outline, documentOutline schema document = .ok outline ∧ outline.check = .ok () := by
  rw [walk_unstopped unstopped] at succeeded
  cases found : documentOutline schema document with
  | error cycle =>
      rw [found] at succeeded
      cases succeeded
  | ok outline =>
      rw [found] at succeeded
      exact ⟨outline, rfl, succeeded⟩

theorem exists_documentOutline_of_checked (checked : checkDocument document schema = .ok ()) :
    ∃ outline, documentOutline schema document = .ok outline ∧ outline.check = .ok () :=
  exists_documentOutline checked (answers_of_silent ())

end Recording

/-! ## A workflow -/

/-- A schema that says nothing but that no node applies below `with`. -/
def workflowSchema : Schema :=
  ⟨"", { Node.any with properties := [("with", Node.nothing)] }, []⟩

/-- A workflow with a job, a trigger, and options that no node applies to. -/
def workflow : Json :=
  .object [("jobs", .object [("build", .null)]), ("on", .array [.string "push"]),
    ("with", .object [("run", .null)])]

theorem workflow_distinct : workflow.KeysDistinct := by
  simp [workflow, Json.KeysDistinct, Json.MemberKeysDistinct, Json.ItemKeysDistinct]

/-- The place of a value below another one. -/
def placeBelow (above : Context) (step : Step) (node : Option Node) (value : Json) : Context :=
  ⟨above.path ++ [step], node, shapeOf node value, value, some above.value, some step⟩

def workflowOutline : Outline :=
  let root : Context := ⟨[], some workflowSchema.root, .object, workflow, none, none⟩
  let jobs := placeBelow root (.key "jobs") (some Node.any) (.object [("build", .null)])
  let build := placeBelow jobs (.key "build") (some Node.any) .null
  let triggers := placeBelow root (.key "on") (some Node.any) (.array [.string "push"])
  let push := placeBelow triggers (.index 0) (some Node.any) (.string "push")
  let options := placeBelow root (.key "with") none (.object [("run", .null)])
  .node root
    (.branch .property (.node jobs (.branch .property (.node build .finished) .finished))
      (.branch .property
        (.node triggers (.branch (.item 0) (.node push .finished) .finished))
        (.branch .property (.node options .finished) .finished)))

theorem documentOutline_workflow :
    documentOutline workflowSchema workflow = .ok workflowOutline := by
  simp [documentOutline, context, Except.map, Schema.effective_of_plain, workflowSchema,
    Node.any, Node.nothing, Node.isUnion, Schema.keepIfAccepted, Node.acceptsType, outline,
    branches, memberBranches, itemBranches, memberContext, itemContext, workflow,
    Node.propertyNode?, Node.patternNode?, Node.itemNode, shapeOf, List.lookup_cons,
    List.lookup_nil]
  rfl

end Walk

end Pipewright
