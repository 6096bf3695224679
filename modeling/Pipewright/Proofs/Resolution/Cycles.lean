import Mathlib.Data.List.Chain
import Mathlib.Logic.Relation
import Pipewright.Proofs.Resolution.Runs

/-!
# Reference cycles

Resolution of a place enters references only through references, alternatives and
branches.  A `Trail` records how the references of a stack were entered, and every
cycle that is reported closes a trail.
-/

namespace Pipewright

namespace Node

/-- The part is an alternative or a branch of a node that is no reference. -/
def HasPart (node part : Node) : Prop :=
  node.reference = none ∧ (part ∈ node.alternatives ∨ part ∈ node.allOf)

/-- The part describes the same place as the node: only alternatives and branches
lead to it. -/
def Composes : Node → Node → Prop :=
  Relation.ReflTransGen HasPart

end Node

namespace Schema

/-- The definition that a reference names enters the next reference at the same
place. -/
def LeadsTo (schema : Schema) (reference next : String) : Prop :=
  ∃ target part, schema.definition? reference = some target ∧ target.Composes part ∧
    part.reference = some next

/-- The references in the stack were entered, one after the other and none twice, on
the way from one of the starts to the node. -/
inductive Trail (schema : Schema) (starts : List Node) : List String → Node → Prop where
  | start {node : Node} : node ∈ starts → Trail schema starts [] node
  | part {stack : List String} {node part : Node} :
      Trail schema starts stack node → node.HasPart part → Trail schema starts stack part
  | enter {stack : List String} {node target : Node} {reference : String} :
      Trail schema starts stack node → node.reference = some reference →
      reference ∉ stack → schema.definition? reference = some target →
      Trail schema starts (stack ++ [reference]) target

/-- The first of the references is entered at the place of one of the starts. -/
def EnteredFrom (starts : List Node) (references : List String) : Prop :=
  ∃ first start part, references.head? = some first ∧ start ∈ starts ∧
    start.Composes part ∧ part.reference = some first

/-- The chain of a cyclic reference tells a cycle: its last reference occurs once
more in it and nothing else repeats, each reference leads to the next, and the first
one is entered at the place of one of the starts. -/
structure IsCycle (schema : Schema) (starts : List Node) (cycle : CyclicReference) :
    Prop where
  repeats : ∃ earlier again, cycle.chain = earlier ++ [again] ∧ again ∈ earlier ∧
    earlier.Nodup
  linked : cycle.chain.IsChain schema.LeadsTo
  entered : EnteredFrom starts cycle.chain

variable {schema : Schema} {starts : List Node} {value : Json}

namespace Trail

variable {stack : List String} {node : Node}

theorem nodup (trail : schema.Trail starts stack node) : stack.Nodup := by
  induction trail with
  | start => exact List.nodup_nil
  | part _ _ inner => exact inner
  | enter _ _ fresh _ inner =>
      simpa [List.nodup_append] using ⟨inner, fun _ present same => fresh (same ▸ present)⟩

/-- The last reference entered, or else a start, composes the node. -/
theorem composes (trail : schema.Trail starts stack node) :
    (stack = [] ∧ ∃ start ∈ starts, start.Composes node) ∨
      ∃ last target, stack.getLast? = some last ∧ schema.definition? last = some target ∧
        target.Composes node := by
  induction trail with
  | @start node among => exact .inl ⟨rfl, node, among, .refl⟩
  | part _ hasPart inner =>
      rcases inner with ⟨empty, start, among, composes⟩ | ⟨last, target, atEnd, found, composes⟩
      · exact .inl ⟨empty, start, among, composes.tail hasPart⟩
      · exact .inr ⟨last, target, atEnd, found, composes.tail hasPart⟩
  | @enter stack _ target reference _ _ _ found =>
      exact .inr ⟨reference, target, by simp, found, .refl⟩

/-- A reference that the node is follows the last one entered. -/
theorem linked_append (trail : schema.Trail starts stack node) {reference : String}
    (isReference : node.reference = some reference)
    (linked : stack.IsChain schema.LeadsTo) :
    (stack ++ [reference]).IsChain schema.LeadsTo := by
  apply linked.append (List.isChain_singleton _)
  intro last atEnd next atHead
  cases atHead
  rcases trail.composes with ⟨empty, _⟩ | ⟨entered, target, atEnd', found, composes⟩
  · rw [empty] at atEnd
    cases atEnd
  · rw [Option.mem_def.mp atEnd] at atEnd'
    cases atEnd'
    exact ⟨target, node, found, composes, isReference⟩

theorem linked (trail : schema.Trail starts stack node) :
    stack.IsChain schema.LeadsTo := by
  induction trail with
  | start => exact List.isChain_nil
  | part _ _ inner => exact inner
  | enter trail isReference _ _ inner => exact trail.linked_append isReference inner

/-- The first reference is one that a part of a start is. -/
theorem enteredFrom_append (trail : schema.Trail starts stack node) {reference : String}
    (isReference : node.reference = some reference)
    (enteredFrom : stack ≠ [] → EnteredFrom starts stack) :
    EnteredFrom starts (stack ++ [reference]) := by
  rcases trail.composes with ⟨empty, start, among, composes⟩ | ⟨last, _, atEnd, _⟩
  · exact ⟨reference, start, node, by simp [empty], among, composes, isReference⟩
  · have nonempty : stack ≠ [] := by
      rintro rfl
      cases atEnd
    obtain ⟨first, start, part, atHead, origin⟩ := enteredFrom nonempty
    exact ⟨first, start, part, by simp [List.head?_append, atHead], origin⟩

theorem enteredFrom (trail : schema.Trail starts stack node) :
    stack ≠ [] → EnteredFrom starts stack := by
  induction trail with
  | start => exact fun nonempty => absurd rfl nonempty
  | part _ _ inner => exact inner
  | enter trail isReference _ _ inner =>
      exact fun _ => trail.enteredFrom_append isReference inner

/-- A trail that comes to a reference on its stack is a cycle. -/
theorem isCycle (trail : schema.Trail starts stack node) {reference : String}
    (isReference : node.reference = some reference) (seen : reference ∈ stack) :
    schema.IsCycle starts ⟨stack ++ [reference]⟩ where
  repeats := ⟨stack, reference, rfl, seen, trail.nodup⟩
  linked := trail.linked_append isReference trail.linked
  entered := trail.enteredFrom_append isReference trail.enteredFrom

end Trail

/-! ## Reported cycles -/

theorem Follows.isCycle {stack after : List String} {node : Node}
    {outcome : Resolved (Option Node)} {cycle : CyclicReference}
    (follows : schema.Follows stack node outcome after)
    (trail : schema.Trail starts stack node) (failed : outcome = .error cycle) :
    schema.IsCycle starts cycle := by
  induction follows with
  | arrived => cases failed
  | repeated isReference seen =>
      cases failed
      exact trail.isCycle isReference seen
  | dangling => cases failed
  | entered isReference fresh found _ inner =>
      exact inner (trail.enter isReference fresh found) failed

/-- Following prolongs the trail and arrives at a node that is no reference. -/
theorem Follows.trail {stack after : List String} {node target : Node}
    {outcome : Resolved (Option Node)}
    (follows : schema.Follows stack node outcome after)
    (trail : schema.Trail starts stack node) (arrived : outcome = .ok (some target)) :
    schema.Trail starts after target ∧ target.reference = none := by
  induction follows with
  | arrived noReference =>
      cases arrived
      exact ⟨trail, noReference⟩
  | repeated => cases arrived
  | dangling => cases arrived
  | entered isReference fresh found _ inner =>
      exact inner (trail.enter isReference fresh found) arrived

mutual

theorem Selects.isCycle {stack after : List String} {position : Nat}
    {alternatives : List Node} {outcome : Resolved (Option (Nat × Node))}
    {cycle : CyclicReference} :
    schema.Selects value stack position alternatives outcome after →
      (∀ alternative ∈ alternatives, schema.Trail starts stack alternative) →
      outcome = .error cycle → schema.IsCycle starts cycle
  | .unfollowed follows, trails, failed => by
      apply follows.isCycle (trails _ List.mem_cons_self)
      cases failed
      rfl
  | .dangling follows selects, trails, failed => by
      apply selects.isCycle _ failed
      intro alternative later
      rw [follows.take_eq]
      exact trails _ (List.mem_cons_of_mem _ later)
  | .failed follows admits, trails, failed => by
      obtain ⟨trail, noReference⟩ := follows.trail (trails _ List.mem_cons_self) rfl
      apply admits.isCycle trail noReference
      cases failed
      rfl
  | .refused follows admits selects, trails, failed => by
      apply selects.isCycle _ failed
      intro alternative later
      rw [admits.stack_eq, follows.take_eq]
      exact trails _ (List.mem_cons_of_mem _ later)

theorem Admits.isCycle {stack after : List String} {node : Node} {outcome : Resolved Bool}
    {cycle : CyclicReference} :
    schema.Admits value stack node outcome after →
      schema.Trail starts stack node → node.reference = none →
      outcome = .error cycle → schema.IsCycle starts cycle
  | @Admits.union _ _ _ _ _ found _ _ selects, trail, noReference, failed => by
      apply selects.isCycle
        (fun _ among => trail.part ⟨noReference, .inl among⟩)
      cases found with
      | error other =>
          cases failed
          rfl
      | ok found => cases failed

end

mutual

theorem Effective.isCycle {stack after : List String} {node : Node}
    {outcome : Resolved (Option Node)} {cycle : CyclicReference} :
    schema.Effective value stack node outcome after →
      schema.Trail starts stack node → outcome = .error cycle →
      schema.IsCycle starts cycle
  | .cut step, trail, failed => step.isCycle trail failed

theorem EffectiveStep.isCycle {stack after : List String} {node : Node}
    {outcome : Resolved (Option Node)} {cycle : CyclicReference} :
    schema.EffectiveStep value stack node outcome after →
      schema.Trail starts stack node → outcome = .error cycle →
      schema.IsCycle starts cycle
  | .unfollowed follows, trail, failed => by
      apply follows.isCycle trail
      cases failed
      rfl
  | .unmerged follows merges, trail, failed => by
      obtain ⟨trail, noReference⟩ := follows.trail trail rfl
      apply merges.isCycle trail noReference
      cases failed
      rfl
  | .merged follows merges chooses, trail, failed => by
      obtain ⟨trail, noReference⟩ := follows.trail trail rfl
      apply chooses.isCycle _ failed
      intro alternative among
      rw [merges.alternatives_eq] at among
      rw [merges.spec.1]
      exact trail.part ⟨noReference, .inl among⟩

theorem Merges.isCycle {stack after : List String} {node : Node} {outcome : Resolved Node}
    {cycle : CyclicReference} :
    schema.Merges value stack node outcome after →
      schema.Trail starts stack node → node.reference = none →
      outcome = .error cycle → schema.IsCycle starts cycle
  | .failed _ merges, trail, noReference, failed => by
      apply merges.isCycle (fun _ among => trail.part ⟨noReference, .inr among⟩)
      cases failed
      rfl

theorem MergesOver.isCycle {stack after : List String} {merged : Node}
    {branches : List Node} {outcome : Resolved Node} {cycle : CyclicReference} :
    schema.MergesOver value stack merged branches outcome after →
      (∀ branch ∈ branches, schema.Trail starts stack branch) →
      outcome = .error cycle → schema.IsCycle starts cycle
  | .failed effective, trails, failed => by
      apply effective.isCycle (trails _ List.mem_cons_self)
      cases failed
      rfl
  | .skipped effective merges, trails, failed => by
      apply merges.isCycle _ failed
      intro branch later
      rw [effective.spec.1]
      exact trails _ (List.mem_cons_of_mem _ later)
  | .overlaid effective merges, trails, failed => by
      apply merges.isCycle _ failed
      intro branch later
      rw [effective.spec.1]
      exact trails _ (List.mem_cons_of_mem _ later)

theorem Chooses.isCycle {stack after : List String} {node : Node}
    {outcome : Resolved (Option Node)} {cycle : CyclicReference} :
    schema.Chooses value stack node outcome after →
      (∀ alternative ∈ node.alternatives, schema.Trail starts stack alternative) →
      outcome = .error cycle → schema.IsCycle starts cycle
  | .unselected _ selects, trails, failed => by
      apply selects.isCycle trails
      cases failed
      rfl
  | .failed _ selects atPosition effective, trails, failed => by
      have trail := trails _ (List.mem_of_getElem? atPosition)
      rw [← selects.stack_eq] at trail
      apply effective.isCycle trail
      cases failed
      rfl

end

/-- Whatever resolution reports as a cycle is one. -/
theorem isCycle_of_resolve {node : Node} {cycle : CyclicReference}
    (failed : schema.resolve node = .error cycle) : schema.IsCycle [node] cycle := by
  obtain ⟨after, follows⟩ := (follows_iff node _).mpr failed.symm
  exact follows.isCycle (.start (by simp)) rfl

theorem isCycle_of_selectBranch {alternatives : List Node} {cycle : CyclicReference}
    (failed : schema.selectBranch value alternatives = .error cycle) :
    schema.IsCycle alternatives cycle := by
  obtain ⟨selected, after, selects, same⟩ :=
    (selects_iff alternatives _).mpr failed.symm
  apply selects.isCycle (fun _ among => .start among)
  cases selected with
  | error other =>
      cases same
      rfl
  | ok found => cases same

theorem isCycle_of_effective {node : Node} {cycle : CyclicReference}
    (failed : schema.effective value node = .error cycle) : schema.IsCycle [node] cycle := by
  obtain ⟨after, effective⟩ := (effective_iff node _).mpr failed.symm
  exact effective.isCycle (.start (by simp)) rfl

end Schema

end Pipewright
