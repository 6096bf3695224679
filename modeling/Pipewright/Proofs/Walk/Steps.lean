import Pipewright.Walk.Traversal

/-!
# Steps of a walk

What a walk does at a node, and what a walk that succeeds has done at the first
member of an object and at the first element of an array.
-/

namespace Pipewright

namespace Walk

variable {State : Type} {schema : Schema} {observer : Observer State} {place : Context}
  {state entered : State}

/-- All of a context but its node is given. -/
theorem context_eq {path : List Step} {declared : Option Node} {value : Json}
    {parent : Option Json} {key : Option Step}
    (found : context schema path declared value parent key = .ok place) :
    place = ⟨path, place.node, shapeOf place.node value, value, parent, key⟩ := by
  cases declared with
  | none =>
      cases found
      rfl
  | some node =>
      simp only [context] at found
      cases effective : schema.effective value node with
      | error cycle =>
          rw [effective] at found
          cases found
      | ok applied =>
          rw [effective] at found
          cases found
          rfl

/-- Which node applies at a place is decided by the declared node and the value. -/
theorem map_node_context (path : List Step) (declared : Option Node) (value : Json)
    (parent : Option Json) (key : Option Step) :
    (context schema path declared value parent key).map (·.node) =
      match declared with
      | none => .ok none
      | some node => schema.effective value node := by
  cases declared with
  | none => rfl
  | some node =>
      simp only [context]
      cases schema.effective value node <;> rfl

theorem effective_of_context {path : List Step} {given : Node} {value : Json}
    {parent : Option Json} {key : Option Step}
    (found : context schema path (some given) value parent key = .ok place) :
    schema.effective value given = .ok place.node := by
  have applied := @map_node_context schema path (some given) value parent key
  rw [found] at applied
  exact applied.symm

/-- The walk below a node that was entered. -/
def visitBelow (schema : Schema) (observer : Observer State) (place : Context) (value : Json)
    (entered : State × Flow) : Outcome State :=
  match entered.2, place.node, value with
  | .continue, some node, .object members =>
      visitMembers schema observer place node members entered.1
  | .continue, some node, .array items =>
      visitItems schema observer place node 0 items entered.1
  | _, _, _ => (entered.1, .ok ())

theorem visit_eq (value : Json) :
    visit schema observer place value state =
      leaveNode observer place
        (visitBelow schema observer place value (observer.enter state place)) := by
  unfold visit
  rfl

theorem visit_of_stop {value : Json} (stops : observer.enter state place = (entered, .stop)) :
    visit schema observer place value state = (observer.leave entered place, .ok ()) := by
  rw [visit_eq, stops]
  rfl

theorem visit_object {node : Node} {members : Members}
    (continues : observer.enter state place = (entered, .continue))
    (placed : place.node = some node) :
    visit schema observer place (.object members) state =
      leaveNode observer place
        (visitMembers schema observer place node members entered) := by
  rw [visit_eq, continues]
  simp only [visitBelow, placed]

theorem visit_array {node : Node} {items : List Json}
    (continues : observer.enter state place = (entered, .continue))
    (placed : place.node = some node) :
    visit schema observer place (.array items) state =
      leaveNode observer place (visitItems schema observer place node 0 items entered) := by
  rw [visit_eq, continues]
  simp only [visitBelow, placed]

theorem leaveNode_of_ok {below : Outcome State}
    (succeeded : (leaveNode observer place below).2 = .ok ()) :
    below.2 = .ok () ∧ (leaveNode observer place below).1 = observer.leave below.1 place := by
  obtain ⟨state, result⟩ := below
  cases result with
  | error cycle => cases succeeded
  | ok _ => exact ⟨rfl, rfl⟩

/-- A member is announced, and visited unless it is passed over. -/
def visitMember (schema : Schema) (observer : Observer State) (place : Context)
    (value : Json) (state : State) : Outcome State :=
  let announced := observer.property state place
  match announced.2 with
  | .continue => visit schema observer place value announced.1
  | .stop => (announced.1, .ok ())

theorem visitMembers_cons {container : Context} {node : Node} {key : String} {value : Json}
    {rest : Members} (found : memberContext schema container node key value = .ok place) :
    visitMembers schema observer container node ((key, value) :: rest) state =
      let first := visitMember schema observer place value state
      match first.2 with
      | .error cycle => (first.1, .error cycle)
      | .ok () => visitMembers schema observer container node rest first.1 := by
  rw [visitMembers, found]
  rfl

theorem visitItems_cons {container : Context} {node : Node} {position : Nat} {value : Json}
    {rest : List Json} (found : itemContext schema container node position value = .ok place) :
    visitItems schema observer container node position (value :: rest) state =
      let first := visit schema observer place value (observer.item state place position)
      match first.2 with
      | .error cycle => (first.1, .error cycle)
      | .ok () => visitItems schema observer container node (position + 1) rest first.1 := by
  apply Eq.trans
  · rw [visitItems, found]
  · rfl

/-- Where the members of an object are visited, the first one is, and then the others. -/
theorem visitMembers_of_ok {container : Context} {node : Node} {key : String} {value : Json}
    {rest : Members}
    (succeeded :
      (visitMembers schema observer container node ((key, value) :: rest) state).2 = .ok ()) :
    ∃ place, memberContext schema container node key value = .ok place ∧
      (visitMember schema observer place value state).2 = .ok () ∧
      visitMembers schema observer container node ((key, value) :: rest) state =
        visitMembers schema observer container node rest
          (visitMember schema observer place value state).1 := by
  cases found : memberContext schema container node key value with
  | error cycle =>
      rw [visitMembers, found] at succeeded
      cases succeeded
  | ok place =>
      have unfolded :
          visitMembers schema observer container node ((key, value) :: rest) state = _ :=
        visitMembers_cons found
      cases first : (visitMember schema observer place value state).2 with
      | error cycle =>
          simp only [unfolded, first] at succeeded
          cases succeeded
      | ok _ =>
          simp only [first] at unfolded
          exact ⟨place, rfl, first, unfolded⟩

theorem visitItems_of_ok {container : Context} {node : Node} {position : Nat} {value : Json}
    {rest : List Json}
    (succeeded :
      (visitItems schema observer container node position (value :: rest) state).2 = .ok ()) :
    ∃ place, itemContext schema container node position value = .ok place ∧
      (visit schema observer place value (observer.item state place position)).2 = .ok () ∧
      visitItems schema observer container node position (value :: rest) state =
        visitItems schema observer container node (position + 1) rest
          (visit schema observer place value (observer.item state place position)).1 := by
  cases found : itemContext schema container node position value with
  | error cycle =>
      rw [visitItems, found] at succeeded
      cases succeeded
  | ok place =>
      have unfolded :
          visitItems schema observer container node position (value :: rest) state = _ :=
        visitItems_cons found
      cases first : (visit schema observer place value (observer.item state place position)).2 with
      | error cycle =>
          simp only [unfolded, first] at succeeded
          cases succeeded
      | ok _ =>
          simp only [first] at unfolded
          exact ⟨place, rfl, first, unfolded⟩

end Walk

end Pipewright
