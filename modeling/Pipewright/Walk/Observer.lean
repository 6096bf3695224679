import Pipewright.Schema.Node
import Pipewright.Json.Pointer

/-!
# Observers

An observer is a state and what each kind of event does to it.  Entering a node
and visiting a property also decide whether the walk goes on below.
-/

namespace Pipewright

/-- A step from a container to a member or an element. -/
inductive Step where
  | key (name : String)
  | index (position : Nat)
deriving DecidableEq, Repr

/-- A step as a token of a pointer. -/
def Step.token : Step → String
  | .key name => Pointer.escape name
  | .index position => toString position

/-- How a node is treated: a value that no node applies to is opaque. -/
inductive Shape where
  | scalar
  | object
  | array
  | opaqueValue
deriving DecidableEq, Repr

/-- The answer of an observer: go on below, or pass over what is below. -/
inductive Flow where
  | continue
  | stop
deriving DecidableEq, Repr

/-- A place of a document together with what is known about it. -/
structure Context where
  path : List Step
  node : Option Node
  shape : Shape
  value : Json
  parent : Option Json
  key : Option Step

namespace Context

/-- The number of steps from the root. -/
def depth (context : Context) : Nat :=
  context.path.length

/-- Is this the root of the document? -/
def isRoot (context : Context) : Bool :=
  context.path.isEmpty

/-- The name of the property that led here, if a property did. -/
def propertyName? (context : Context) : Option String :=
  match context.key with
  | some (.key name) => some name
  | _ => none

/-- The pointer to this place. -/
def pointer (context : Context) : String :=
  String.join (context.path.map fun step => "/" ++ step.token)

end Context

/-- The reactions of an observer with states of type `State`. -/
structure Observer (State : Type) where
  enter : State → Context → State × Flow
  leave : State → Context → State
  property : State → Context → State × Flow
  item : State → Context → Nat → State

namespace Observer

/-- The observer that reacts to nothing and lets the walk go everywhere. -/
def silent (State : Type) : Observer State where
  enter state _ := (state, .continue)
  leave state _ := state
  property state _ := (state, .continue)
  item state _ _ := state

end Observer

/-- An observer assembled from optional reactions. -/
structure Callbacks (State : Type) where
  onEnter : Option (State → Context → State × Flow)
  onLeave : Option (State → Context → State)
  onProperty : Option (State → Context → State × Flow)
  onItem : Option (State → Context → Nat → State)

namespace Callbacks

/-- No reactions. -/
def none {State : Type} : Callbacks State :=
  ⟨.none, .none, .none, .none⟩

/-- The observer of some callbacks; a missing one reacts to nothing. -/
def observer {State : Type} (callbacks : Callbacks State) : Observer State where
  enter := callbacks.onEnter.getD (Observer.silent State).enter
  leave := callbacks.onLeave.getD (Observer.silent State).leave
  property := callbacks.onProperty.getD (Observer.silent State).property
  item := callbacks.onItem.getD (Observer.silent State).item

end Callbacks

end Pipewright
