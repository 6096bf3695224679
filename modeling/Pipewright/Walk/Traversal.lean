import Pipewright.Resolve
import Pipewright.Walk.Observer

/-!
# Walking a document

A walk visits a document from the root down, beside its schema.  Every node is
entered, then its members or elements are visited in order, and then it is left.
A member or an element is announced before it is entered.  A value that no node
applies to is reported as opaque and not looked into.

A walk fails only on a cyclic reference; the observer keeps what it has seen.
-/

namespace Pipewright

/-- How a value is treated when the given node applies to it. -/
def shapeOf (node : Option Node) (value : Json) : Shape :=
  match node, value with
  | none, _ => .opaqueValue
  | some _, .object _ => .object
  | some _, .array _ => .array
  | some _, _ => .scalar

namespace Walk

/-- The outcome of a walk: the observer's state and whether the walk failed. -/
abbrev Outcome (State : Type) := State × Resolved Unit

/-- The context of a value below `parent`; without a declared node it is
opaque. -/
def context (schema : Schema) (path : List Step) (declared : Option Node) (value : Json)
    (parent : Option Json) (key : Option Step) : Resolved Context :=
  match declared with
  | none => .ok ⟨path, none, .opaqueValue, value, parent, key⟩
  | some node =>
      (schema.effective value node).map fun effective =>
        ⟨path, effective, shapeOf effective value, value, parent, key⟩

/-- The context of a member of an object. -/
def memberContext (schema : Schema) (container : Context) (node : Node) (key : String)
    (value : Json) : Resolved Context :=
  context schema (container.path ++ [.key key]) (node.propertyNode? key) value
    (some container.value) (some (.key key))

/-- The context of an element of an array. -/
def itemContext (schema : Schema) (container : Context) (node : Node) (position : Nat)
    (value : Json) : Resolved Context :=
  context schema (container.path ++ [.index position]) (some node.itemNode) value
    (some container.value) (some (.index position))

/-- Leave a node, unless the walk failed below it. -/
def leaveNode {State : Type} (observer : Observer State) (place : Context) :
    Outcome State → Outcome State
  | (below, .ok ()) => (observer.leave below place, .ok ())
  | (below, .error cycle) => (below, .error cycle)

/-- Leaving a node does not change whether the walk failed. -/
theorem leaveNode_snd {State : Type} (observer : Observer State) (place : Context)
    (below : Outcome State) : (leaveNode observer place below).2 = below.2 := by
  obtain ⟨state, result⟩ := below
  cases result <;> rfl

mutual

/-- Visit the node of a context, whose value is `value`. -/
def visit {State : Type} (schema : Schema) (observer : Observer State) (place : Context)
    (value : Json) (state : State) : Outcome State :=
  let (entered, flow) := observer.enter state place
  leaveNode observer place <|
    match flow, place.node, value with
    | .continue, some node, .object members =>
        visitMembers schema observer place node members entered
    | .continue, some node, .array items =>
        visitItems schema observer place node 0 items entered
    | _, _, _ => (entered, .ok ())

/-- Visit the members of an object. -/
def visitMembers {State : Type} (schema : Schema) (observer : Observer State)
    (container : Context) (node : Node) (members : List (String × Json)) (state : State) :
    Outcome State :=
  match members with
  | [] => (state, .ok ())
  | (key, value) :: rest =>
      match memberContext schema container node key value with
      | .error cycle => (state, .error cycle)
      | .ok place =>
          let (announced, flow) := observer.property state place
          let (visited, result) : Outcome State :=
            match flow with
            | .continue => visit schema observer place value announced
            | .stop => (announced, .ok ())
          match result with
          | .error cycle => (visited, .error cycle)
          | .ok () => visitMembers schema observer container node rest visited

/-- Visit the elements of an array from position `position` on. -/
def visitItems {State : Type} (schema : Schema) (observer : Observer State)
    (container : Context) (node : Node) (position : Nat) (items : List Json) (state : State) :
    Outcome State :=
  match items with
  | [] => (state, .ok ())
  | value :: rest =>
      match itemContext schema container node position value with
      | .error cycle => (state, .error cycle)
      | .ok place =>
          let (visited, result) :=
            visit schema observer place value (observer.item state place position)
          match result with
          | .error cycle => (visited, .error cycle)
          | .ok () => visitItems schema observer container node (position + 1) rest visited

end

end Walk

/-- Walk a document beside its schema. -/
def walk {State : Type} (document : Json) (schema : Schema) (observer : Observer State)
    (state : State) : Walk.Outcome State :=
  match Walk.context schema [] (some schema.root) document none none with
  | .error cycle => (state, .error cycle)
  | .ok place => Walk.visit schema observer place document state

/-- Walk a document without looking: does the walk succeed? -/
def checkDocument (document : Json) (schema : Schema) : Resolved Unit :=
  (walk document schema (Observer.silent Unit) ()).2

end Pipewright
