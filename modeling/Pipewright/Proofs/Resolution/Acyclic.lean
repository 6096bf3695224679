import Pipewright.Builder.Emitter
import Pipewright.Canonical.Comparison
import Pipewright.Proofs.Resolution.Cycles
import Pipewright.Proofs.Walk.Steps

/-!
# Schemas without reference cycles

Resolution ends on every schema, and the cycles that it reports are real.  Where no
reference leads back to itself at one place, nothing that looks at documents beside
the schema can fail.
-/

namespace Pipewright

namespace Schema

/-- No reference leads back to itself at one place. -/
def Acyclic (schema : Schema) : Prop :=
  ∀ reference, ¬ Relation.TransGen schema.LeadsTo reference reference

variable {schema : Schema} {starts : List Node}

/-- A schema without definitions whose root composes nothing has no reference cycle. -/
theorem acyclic_of_lone_root (noDefinitions : schema.definitions = [])
    (noReference : schema.root.reference = none) (noAlternatives : schema.root.alternatives = [])
    (noBranches : schema.root.allOf = []) : schema.Acyclic := by
  intro reference back
  obtain ⟨next, ⟨target, part, found, composes, isReference⟩, _⟩ :=
    Relation.TransGen.head'_iff.mp back
  have root : target = schema.root := by
    unfold definition? at found
    split at found
    · exact (Option.some.inj found).symm
    · rw [noDefinitions] at found
      cases found
  subst root
  rcases Relation.ReflTransGen.cases_head composes with same | ⟨_, ⟨_, isPart⟩, _⟩
  · rw [← same, noReference] at isReference
    cases isReference
  · rw [noAlternatives, noBranches] at isPart
    rcases isPart with alternative | branch
    · cases alternative
    · cases branch

/-- A reported cycle leads from its last reference back to it. -/
theorem IsCycle.transGen {cycle : CyclicReference} (isCycle : schema.IsCycle starts cycle) :
    ∃ reference, Relation.TransGen schema.LeadsTo reference reference := by
  obtain ⟨earlier, again, chain, seen, _⟩ := isCycle.repeats
  obtain ⟨front, back, split⟩ := List.append_of_mem seen
  have linked := isCycle.linked.imp fun _ _ leads => Relation.TransGen.single leads
  rw [chain, split] at linked
  have reaches := linked.pairwise
  simp only [List.append_assoc, List.cons_append, List.pairwise_append,
    List.pairwise_cons] at reaches
  exact ⟨again, reaches.2.1.1 again (by simp)⟩

namespace Acyclic

theorem resolve_ok (acyclic : schema.Acyclic) (node : Node) :
    ∃ found, schema.resolve node = .ok found := by
  cases resolved : schema.resolve node with
  | ok found => exact ⟨found, rfl⟩
  | error cycle =>
      obtain ⟨reference, back⟩ := (isCycle_of_resolve resolved).transGen
      exact absurd back (acyclic reference)

theorem selectBranch_ok (acyclic : schema.Acyclic) (value : Json) (alternatives : List Node) :
    ∃ found, schema.selectBranch value alternatives = .ok found := by
  cases selected : schema.selectBranch value alternatives with
  | ok found => exact ⟨found, rfl⟩
  | error cycle =>
      obtain ⟨reference, back⟩ := (isCycle_of_selectBranch selected).transGen
      exact absurd back (acyclic reference)

theorem effective_ok (acyclic : schema.Acyclic) (value : Json) (node : Node) :
    ∃ found, schema.effective value node = .ok found := by
  cases effective : schema.effective value node with
  | ok found => exact ⟨found, rfl⟩
  | error cycle =>
      obtain ⟨reference, back⟩ := (isCycle_of_effective effective).transGen
      exact absurd back (acyclic reference)

/-! ## Walks -/

theorem context_ok (acyclic : schema.Acyclic) (path : List Step) (declared : Option Node)
    (value : Json) (parent : Option Json) (key : Option Step) :
    ∃ place, Walk.context schema path declared value parent key = .ok place := by
  cases declared with
  | none => exact ⟨_, rfl⟩
  | some node =>
      obtain ⟨found, effective⟩ := acyclic.effective_ok value node
      simp only [Walk.context, effective]
      exact ⟨_, rfl⟩

variable {State : Type} (observer : Observer State)

mutual

/-- A visit cannot fail, whatever the observer answers. -/
theorem visit_ok (acyclic : schema.Acyclic) (place : Context) (value : Json) (state : State) :
    (Walk.visit schema observer place value state).2 = .ok () := by
  unfold Walk.visit
  rw [Walk.leaveNode_snd]
  split
  · exact acyclic.visitMembers_ok _ _ _ _
  · exact acyclic.visitItems_ok _ _ _ _ _
  · rfl

theorem visitMembers_ok (acyclic : schema.Acyclic) (container : Context) (node : Node)
    (members : Members) (state : State) :
    (Walk.visitMembers schema observer container node members state).2 = .ok () := by
  match members with
  | [] => rfl
  | (key, value) :: rest =>
      obtain ⟨place, found⟩ := acyclic.context_ok (container.path ++ [.key key])
        (node.propertyNode? key) value (some container.value) (some (.key key))
      have visited := acyclic.visit_ok place value (observer.property state place).1
      have first : (Walk.visitMember schema observer place value state).2 = .ok () := by
        simp only [Walk.visitMember]
        split
        · exact visited
        · rfl
      rw [Walk.visitMembers_cons found]
      simp only [first]
      exact acyclic.visitMembers_ok container node rest _

theorem visitItems_ok (acyclic : schema.Acyclic) (container : Context) (node : Node)
    (position : Nat) (items : List Json) (state : State) :
    (Walk.visitItems schema observer container node position items state).2 = .ok () := by
  match items with
  | [] => rfl
  | value :: rest =>
      obtain ⟨place, found⟩ := acyclic.context_ok (container.path ++ [.index position])
        (some node.itemNode) value (some container.value) (some (.index position))
      have visited := acyclic.visit_ok place value (observer.item state place position)
      rw [Walk.visitItems_cons found]
      simp only [visited]
      exact acyclic.visitItems_ok container node (position + 1) rest _

end

theorem walk_ok (acyclic : schema.Acyclic) (document : Json) (state : State) :
    (walk document schema observer state).2 = .ok () := by
  obtain ⟨place, found⟩ :=
    acyclic.context_ok [] (some schema.root) document none none
  unfold walk
  rw [found]
  exact acyclic.visit_ok observer place document state

/-! ## Canonical forms and source -/

theorem checkDocument_ok (acyclic : schema.Acyclic) (document : Json) :
    checkDocument document schema = .ok () :=
  acyclic.walk_ok _ document ()

theorem canonicalizeCached_ok (acyclic : schema.Acyclic) (cache : RuleCache)
    (document : Json) (wrapperFields : List String) :
    ∃ canonical, (Canonical.canonicalizeCached cache document schema wrapperFields).1 =
      .ok canonical := by
  simp only [Canonical.canonicalizeCached, acyclic.checkDocument_ok document]
  exact ⟨_, rfl⟩

theorem compare_ok (acyclic : schema.Acyclic) {comparer : Comparer}
    (same : comparer.schema = some schema) (left right : Json) :
    ∃ comparison, comparer.compare left right = .ok comparison := by
  have canonical : ∀ document, ∃ canonical, comparer.canonical document = .ok canonical := by
    intro document
    simp only [Comparer.canonical, same, acyclic.checkDocument_ok document]
    exact ⟨_, rfl⟩
  obtain ⟨leftForm, leftOk⟩ := canonical left
  obtain ⟨rightForm, rightOk⟩ := canonical right
  simp only [Comparer.compare, leftOk, rightOk]
  exact ⟨_, rfl⟩

theorem generate_ok (acyclic : schema.Acyclic) (document : Json) (config : EmitterConfig) :
    ∃ source, generate document schema config = .ok source := by
  have succeeded := acyclic.walk_ok Emitter.observer document (Emitter.start config)
  unfold generate Emitter.emit
  generalize walk document schema Emitter.observer (Emitter.start config) = outcome
    at succeeded
  obtain ⟨emitter, result⟩ := outcome
  cases succeeded
  exact ⟨_, rfl⟩

end Acyclic

/-- On every schema, resolution ends: following references, selecting an alternative
and finding the node that applies have a run for every node and value, and the
outcome of a run is the one that the functions give.  A cycle that one of them
reports is real.  Where no reference leads back to itself at one place, nothing
fails on any document. -/
theorem resolution_ends (schema : Schema) :
    ((∀ node outcome,
        (∃ after, schema.Follows [] node outcome after) ↔ outcome = schema.resolve node) ∧
      (∀ value alternatives outcome,
        (∃ selected after, schema.Selects value [] 0 alternatives selected after ∧
          outcome = selected.map (·.map (·.2))) ↔
          outcome = schema.selectBranch value alternatives) ∧
      (∀ value node outcome,
        (∃ after, schema.Effective value [] node outcome after) ↔
          outcome = schema.effective value node)) ∧
    (∀ cycle,
      (∀ node, schema.resolve node = .error cycle → schema.IsCycle [node] cycle) ∧
      (∀ value alternatives, schema.selectBranch value alternatives = .error cycle →
        schema.IsCycle alternatives cycle) ∧
      (∀ value node, schema.effective value node = .error cycle →
        schema.IsCycle [node] cycle)) ∧
    (schema.Acyclic →
      (∀ value node, ∃ found, schema.effective value node = .ok found) ∧
      (∀ (State : Type) (observer : Observer State) document state,
        (walk document schema observer state).2 = .ok ()) ∧
      (∀ cache document wrapperFields, ∃ canonical,
        (Canonical.canonicalizeCached cache document schema wrapperFields).1 =
          .ok canonical) ∧
      (∀ comparer : Comparer, comparer.schema = some schema →
        ∀ left right, ∃ comparison, comparer.compare left right = .ok comparison) ∧
      (∀ document config, ∃ source, generate document schema config = .ok source)) := by
  refine ⟨⟨follows_iff, fun _ => selects_iff, fun _ => effective_iff⟩, ?_, ?_⟩
  · intro cycle
    exact ⟨fun _ => isCycle_of_resolve, fun _ _ => isCycle_of_selectBranch,
      fun _ _ => isCycle_of_effective⟩
  · intro acyclic
    exact ⟨acyclic.effective_ok, fun _ observer => acyclic.walk_ok observer,
      acyclic.canonicalizeCached_ok, fun _ same => acyclic.compare_ok same,
      acyclic.generate_ok⟩

/-- A schema of trees: its one definition comes back to itself, but only below a
property. -/
def treeSchema : Schema :=
  let tree : Node := { Node.any with reference := some "#/definitions/tree" }
  ⟨"", tree, [("#/definitions/tree", { Node.any with properties := [("child", tree)] })]⟩

/-- The only reference that leads to another one is the root's. -/
theorem treeSchema_leadsTo {reference next : String}
    (leads : treeSchema.LeadsTo reference next) :
    reference = "#" ∧ next = "#/definitions/tree" := by
  obtain ⟨target, part, found, composes, isReference⟩ := leads
  unfold definition? at found
  split at found
  · next root =>
      cases found
      rcases Relation.ReflTransGen.cases_head composes with same | ⟨_, hasPart, _⟩
      · cases same
        cases isReference
        exact ⟨root, rfl⟩
      · cases hasPart.1
  · rw [treeSchema, List.lookup_cons] at found
    split at found
    · cases found
      rcases Relation.ReflTransGen.cases_head composes with same | ⟨_, hasPart, _⟩
      · cases same
        cases isReference
      · rcases hasPart.2 with alternative | branch
        · cases alternative
        · cases branch
    · cases found

theorem treeSchema_acyclic : treeSchema.Acyclic := by
  intro reference back
  obtain ⟨next, leads, rest⟩ := Relation.TransGen.head'_iff.mp back
  obtain ⟨rfl, rfl⟩ := treeSchema_leadsTo leads
  rcases Relation.ReflTransGen.cases_head rest with same | ⟨_, further, _⟩
  · exact absurd same (by decide)
  · exact absurd (treeSchema_leadsTo further).1 (by decide)

theorem resolution_ends_on_trees :
    treeSchema.Acyclic ∧ ∃ source,
      generate (.object [("child", .object [("child", .null)])]) treeSchema
        EmitterConfig.standard = .ok source := by
  obtain ⟨_, _, unfailing⟩ := resolution_ends treeSchema
  obtain ⟨_, _, _, _, generates⟩ := unfailing treeSchema_acyclic
  exact ⟨treeSchema_acyclic, generates _ _⟩

end Schema

end Pipewright
