import Pipewright.Proofs.Walk.Steps

/-!
# Outlines of walks

What a walk can meet does not depend on its observer.  The outline of a document is
the tree of all places that a walk can come to, each with the places below it up to the
first one whose node cannot be resolved.  Walking a document is walking its outline, so
that statements about observers are proved by induction on outlines.
-/

namespace Pipewright

namespace Walk

/-- How a place is announced: a property may be passed over, and an element is always
entered. -/
inductive Announcement where
  | property
  | item (position : Nat)
deriving DecidableEq, Repr

mutual

/-- A place, and what a walk can meet below it. -/
inductive Outline where
  | node (place : Context) (below : Branches)

/-- The places right below a place, in order.  They end behind the last one, or before
one whose node cannot be resolved. -/
inductive Branches where
  | finished
  | failed (cycle : CyclicReference)
  | branch (announcement : Announcement) (first : Outline) (rest : Branches)

end

/-- The place at the top of an outline. -/
def Outline.place : Outline → Context
  | .node place _ => place

/-- The places right below a place. -/
def Branches.places : Branches → List Context
  | .finished => []
  | .failed _ => []
  | .branch _ first rest => first.place :: rest.places

mutual

/-- What a walk can meet below a place that holds a value. -/
def branches (schema : Schema) (place : Context) : Json → Branches
  | .object members =>
      match place.node with
      | some node => memberBranches schema place node members
      | none => .finished
  | .array items =>
      match place.node with
      | some node => itemBranches schema place node 0 items
      | none => .finished
  | _ => .finished

/-- The outlines of the members of an object. -/
def memberBranches (schema : Schema) (container : Context) (node : Node) : Members → Branches
  | [] => .finished
  | (key, value) :: rest =>
      match memberContext schema container node key value with
      | .error cycle => .failed cycle
      | .ok place =>
          .branch .property (.node place (branches schema place value))
            (memberBranches schema container node rest)

/-- The outlines of the elements of an array from position `position` on. -/
def itemBranches (schema : Schema) (container : Context) (node : Node) (position : Nat) :
    List Json → Branches
  | [] => .finished
  | value :: rest =>
      match itemContext schema container node position value with
      | .error cycle => .failed cycle
      | .ok place =>
          .branch (.item position) (.node place (branches schema place value))
            (itemBranches schema container node (position + 1) rest)

end

/-- The outline of a value at a place. -/
def outline (schema : Schema) (place : Context) (value : Json) : Outline :=
  .node place (branches schema place value)

/-! ## Walking an outline -/

variable {State : Type}

/-- Announce a place to an observer. -/
def Announcement.announce (announcement : Announcement) (observer : Observer State)
    (place : Context) (state : State) : State × Flow :=
  match announcement with
  | .property => observer.property state place
  | .item position => (observer.item state place position, .continue)

/-- Go on below where the answer says so. -/
def descend (answered : State × Flow) (below : State → Outcome State) : Outcome State :=
  match answered.2 with
  | .continue => below answered.1
  | .stop => (answered.1, .ok ())

/-- Go on where a walk has ended, unless it failed. -/
def andThen (outcome : Outcome State) (next : State → Outcome State) : Outcome State :=
  match outcome.2 with
  | .error cycle => (outcome.1, .error cycle)
  | .ok () => next outcome.1

mutual

/-- Walk an outline. -/
def Outline.run (observer : Observer State) : Outline → State → Outcome State
  | .node place below, state =>
      andThen (descend (observer.enter state place) (below.run observer))
        fun state => (observer.leave state place, .ok ())

/-- Walk the places right below a place. -/
def Branches.run (observer : Observer State) : Branches → State → Outcome State
  | .finished, state => (state, .ok ())
  | .failed cycle, state => (state, .error cycle)
  | .branch announcement first rest, state =>
      andThen (descend (announcement.announce observer first.place state) (first.run observer))
        (rest.run observer)

end

variable {schema : Schema} {observer : Observer State} {state : State}

theorem andThen_ok (outcome : Outcome State) (next : State → State) :
    (andThen outcome fun state => (next state, .ok ())).2 = outcome.2 := by
  obtain ⟨state, result⟩ := outcome
  cases result <;> rfl

theorem Outline.run_of_stop {place : Context} {below : Branches} {entered : State}
    (stops : observer.enter state place = (entered, .stop)) :
    (Outline.node place below).run observer state = (observer.leave entered place, .ok ()) := by
  rw [Outline.run, stops]
  rfl

theorem Outline.run_of_continue {place : Context} {below : Branches} {entered : State}
    (continues : observer.enter state place = (entered, .continue)) :
    (Outline.node place below).run observer state =
      andThen (below.run observer entered) fun state => (observer.leave state place, .ok ()) := by
  rw [Outline.run, continues]
  rfl

theorem Branches.run_of_stop {announcement : Announcement} {first : Outline}
    {rest : Branches} {announced : State}
    (stops : announcement.announce observer first.place state = (announced, .stop)) :
    (Branches.branch announcement first rest).run observer state =
      rest.run observer announced := by
  rw [Branches.run, stops]
  rfl

theorem Branches.run_of_continue {announcement : Announcement} {first : Outline}
    {rest : Branches} {announced : State}
    (continues : announcement.announce observer first.place state = (announced, .continue)) :
    (Branches.branch announcement first rest).run observer state =
      andThen (first.run observer announced) (rest.run observer) := by
  rw [Branches.run, continues]
  rfl

theorem leaveNode_eq_andThen (place : Context) (below : Outcome State) :
    leaveNode observer place below =
      andThen below fun state => (observer.leave state place, .ok ()) := by
  obtain ⟨state, result⟩ := below
  cases result <;> rfl

theorem visit_eq_run_of_below {place : Context} {value : Json}
    (below : ∀ entered, visitBelow schema observer place value entered =
      descend entered ((branches schema place value).run observer)) (state : State) :
    visit schema observer place value state =
      (outline schema place value).run observer state := by
  rw [visit_eq, below, leaveNode_eq_andThen]
  rfl

mutual

theorem visitBelow_eq_run (place : Context) (value : Json) (entered : State × Flow) :
    visitBelow schema observer place value entered =
      descend entered ((branches schema place value).run observer) := by
  obtain ⟨state, flow⟩ := entered
  match value with
  | .object members =>
      cases flow <;> cases placed : place.node <;>
        simp only [visitBelow, branches, descend, placed, Branches.run]
      exact visitMembers_eq_run place _ members state
  | .array items =>
      cases flow <;> cases placed : place.node <;>
        simp only [visitBelow, branches, descend, placed, Branches.run]
      exact visitItems_eq_run place _ 0 items state
  | .null | .boolean _ | .number _ | .string _ =>
      cases flow <;> cases placed : place.node <;>
        simp only [visitBelow, branches, descend, placed, Branches.run]

theorem visitMembers_eq_run (container : Context) (node : Node) (members : Members)
    (state : State) :
    visitMembers schema observer container node members state =
      (memberBranches schema container node members).run observer state := by
  match members with
  | [] => rfl
  | (key, value) :: rest =>
      cases found : memberContext schema container node key value with
      | error cycle => simp only [visitMembers, memberBranches, found, Branches.run]
      | ok place =>
          have visited := visit_eq_run_of_below (visitBelow_eq_run place value)
          have others := visitMembers_eq_run container node rest
          rw [visitMembers_cons found]
          simp only [memberBranches, found, Branches.run, visitMember, visited, others]
          rfl

theorem visitItems_eq_run (container : Context) (node : Node) (position : Nat)
    (items : List Json) (state : State) :
    visitItems schema observer container node position items state =
      (itemBranches schema container node position items).run observer state := by
  match items with
  | [] => rfl
  | value :: rest =>
      cases found : itemContext schema container node position value with
      | error cycle => simp only [visitItems, itemBranches, found, Branches.run]
      | ok place =>
          have visited := visit_eq_run_of_below (visitBelow_eq_run place value)
          have others := visitItems_eq_run container node (position + 1) rest
          rw [visitItems_cons found]
          simp only [itemBranches, found, Branches.run, visited, others]
          rfl

end

/-- To visit a place is to walk its outline. -/
theorem visit_eq_run (place : Context) (value : Json) (state : State) :
    visit schema observer place value state =
      (outline schema place value).run observer state :=
  visit_eq_run_of_below (visitBelow_eq_run place value) state

end Walk

end Pipewright
