import Pipewright.Walk.Observer

/-!
# Several observers as one

Each slot holds an observer and its state.  A slot whose observer has vetoed a
subtree is muted there, while the others go on; the walk passes over the subtree
only when every observer that hears of it has vetoed it.
-/

namespace Pipewright

/-- Events at depth `hiddenFrom` or deeper are withheld until the node at depth
`liftedAt` is left. -/
structure Mute where
  hiddenFrom : Nat
  liftedAt : Nat
deriving DecidableEq, Repr

/-- An observer with its state and its mute. -/
structure Slot (State : Type) where
  observer : Observer State
  state : State
  mute : Option Mute

namespace Slot

/-- Does the slot hear of events at a depth? -/
def hears {State : Type} (slot : Slot State) (depth : Nat) : Bool :=
  match slot.mute with
  | none => true
  | some mute => depth < mute.hiddenFrom

/-- Enter a node; a veto mutes the slot below it. -/
def enter {State : Type} (context : Context) (slot : Slot State) : Slot State × Flow :=
  if slot.hears context.depth then
    let (state, flow) := slot.observer.enter slot.state context
    match flow with
    | .continue => ({ slot with state := state }, .continue)
    | .stop =>
        ({ slot with state := state, mute := some ⟨context.depth + 1, context.depth⟩ }, .stop)
  else (slot, .stop)

/-- Leave a node; this lifts a mute that ends there. -/
def leave {State : Type} (context : Context) (slot : Slot State) : Slot State :=
  let slot :=
    if slot.hears context.depth then
      { slot with state := slot.observer.leave slot.state context }
    else slot
  match slot.mute with
  | some mute => if mute.liftedAt = context.depth then { slot with mute := none } else slot
  | none => slot

/-- Visit a property; a veto mutes the slot for it, and is reported as such. -/
def property {State : Type} (context : Context) (slot : Slot State) :
    Slot State × Flow × Bool :=
  if slot.hears context.depth then
    let (state, flow) := slot.observer.property slot.state context
    match flow with
    | .continue => ({ slot with state := state }, .continue, false)
    | .stop =>
        ({ slot with state := state, mute := some ⟨context.depth, context.depth⟩ }, .stop, true)
  else (slot, .stop, false)

/-- Visit an element. -/
def item {State : Type} (context : Context) (position : Nat) (slot : Slot State) : Slot State :=
  if slot.hears context.depth then
    { slot with state := slot.observer.item slot.state context position }
  else slot

end Slot

/-- Several observers, in order. -/
abbrev Fanout (State : Type) := List (Slot State)

namespace Fanout

/-- A slot for an observer that has not seen anything yet. -/
def slot {State : Type} (observer : Observer State) (state : State) : Slot State :=
  ⟨observer, state, none⟩

/-- Go on if one of the answers says so. -/
def anyContinue (flows : List Flow) : Flow :=
  if flows.contains .continue then .continue else .stop

/-- Enter a node with every observer. -/
def enter {State : Type} (fanout : Fanout State) (context : Context) : Fanout State × Flow :=
  let answers := fanout.map (Slot.enter context)
  (answers.map (·.1), anyContinue (answers.map (·.2)))

/-- Leave a node with every observer. -/
def leave {State : Type} (fanout : Fanout State) (context : Context) : Fanout State :=
  fanout.map (Slot.leave context)

/-- Visit a property with every observer.  When nobody goes on, the property is
never left, and the mutes just set are lifted at once. -/
def property {State : Type} (fanout : Fanout State) (context : Context) :
    Fanout State × Flow :=
  let answers := fanout.map (Slot.property context)
  match anyContinue (answers.map (·.2.1)) with
  | .continue => (answers.map (·.1), .continue)
  | .stop =>
      (answers.map fun answer => if answer.2.2 then { answer.1 with mute := none } else answer.1,
        .stop)

/-- Visit an element with every observer. -/
def item {State : Type} (fanout : Fanout State) (context : Context) (position : Nat) :
    Fanout State :=
  fanout.map (Slot.item context position)

/-- The observers as one observer. -/
def observer (State : Type) : Observer (Fanout State) where
  enter := enter
  leave := leave
  property := property
  item := item

end Fanout

end Pipewright
