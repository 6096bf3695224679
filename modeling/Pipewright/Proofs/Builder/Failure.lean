import Pipewright.Canonical.Comparison
import Pipewright.Proofs.Builder.Emission
import Pipewright.Proofs.Walk.Events

/-!
# Where generation fails

The emitter stops at what it has written already: scalars, values that no node applies
to, and elements of an array on one line.  Nothing is below any of these, so none of its
vetoes hides a place from it that cannot be resolved.  The stack of closers tells what
the emitter is about to stop at.
-/

namespace Pipewright

namespace Emitter

open Layout Walk

variable {schema : Schema} {emitter : Emitter} {place : Context} {closers : List Closer}
  {checked : Resolved Unit}

/-- The emitter fails where a walk of everything does, and leaves the closers as they
were if nothing fails. -/
structure Covers (outcome : Outcome Emitter) (checked : Resolved Unit)
    (closers : List Closer) : Prop where
  result : outcome.2 = checked
  closers : checked = .ok () → outcome.1.closers = closers

theorem Covers.of_ok (same : emitter.closers = closers) :
    Covers (emitter, .ok ()) (.ok ()) closers :=
  ⟨rfl, fun _ => same⟩

theorem Covers.of_error (cycle : CyclicReference) :
    Covers (emitter, .error cycle) (.error cycle) closers :=
  ⟨rfl, nofun⟩

theorem Covers.andThen {outcome : Outcome Emitter} {next : Emitter → Outcome Emitter}
    {announcement : Announcement} {first : Outline} {rest : Branches}
    (covers : Covers outcome first.check closers)
    (others : outcome.1.closers = closers → Covers (next outcome.1) rest.check closers) :
    Covers (Walk.andThen outcome next) (Branches.branch announcement first rest).check
      closers := by
  obtain ⟨written, result⟩ := outcome
  obtain rfl : result = first.check := covers.result
  rw [Branches.check]
  unfold Walk.andThen
  cases checks : first.check with
  | error cycle => exact .of_error cycle
  | ok _ => exact others (covers.closers checks)

theorem leave_closers (emitter : Emitter) (place : Context) :
    (observer.leave emitter place).closers = emitter.closers.tail := by
  change (emitter.leave place).closers = _
  unfold leave
  split
  · next empty => rw [empty]; rfl
  · next found => rw [found]; rfl

/-- Leaving a place takes the closer that was put on for it. -/
theorem Covers.leave {closer : Closer} {outcome : Outcome Emitter}
    (covers : Covers outcome checked (closer :: closers)) :
    Covers (leaveNode observer place outcome) checked closers := by
  refine ⟨(leaveNode_snd observer place outcome).trans covers.result, ?_⟩
  intro checks
  obtain ⟨written, result⟩ := outcome
  obtain rfl : result = checked := covers.result
  cases checks
  have opened : written.closers = closer :: closers := covers.closers rfl
  change (observer.leave written place).closers = closers
  rw [leave_closers, opened]
  rfl

/-! ## Values without places below them -/

theorem branches_of_isScalar {value : Json} (isScalar : value.isScalar = true) :
    branches schema place value = .finished := by
  cases value with
  | array => cases isScalar
  | object => cases isScalar
  | _ => simp only [branches]

theorem branches_of_opaque {value : Json} (below : Below place value)
    (hidden : place.shape = .opaqueValue) : branches schema place value = .finished := by
  have node : place.node = none := by
    cases placed : place.node with
    | none => rfl
    | some node =>
        have shape := below.shape
        rw [hidden, placed] at shape
        cases value <;> cases shape
  cases value <;> simp only [branches, node]

/-! ## Arrays on one line -/

theorem inlineItem_closers (emitter : Emitter) (place : Context) (before after : List Char)
    (parts : List (List Char)) (closers : List Closer) :
    ∃ (written : Emitter) (part : List Char),
      emitter.inlineItem place before after parts closers = written.open_ .emitted ∧
      written.closers = .inlineArray before after (parts ++ [part]) :: closers := by
  unfold inlineItem
  split
  · exact ⟨{ emitter with closers := _ :: closers }, _, rfl, rfl⟩
  · exact ⟨Emitter.noteLiteral { emitter with closers := _ :: closers } place.value, _, rfl, rfl⟩

/-- The elements of an array on one line are all written when they are announced. -/
theorem visitItems_inline_covers {container : Context} {node : Node} {items : List Json}
    (inline : items.all Emitter.isInline = true) (position : Nat) {before after : List Char}
    {parts : List (List Char)}
    (opened : emitter.closers = .inlineArray before after parts :: closers) :
    ∃ parts', Covers (visitItems schema observer container node position items emitter)
      (itemBranches schema container node position items).check
      (.inlineArray before after parts' :: closers) := by
  induction items generalizing emitter position parts with
  | nil => exact ⟨parts, .of_ok opened⟩
  | cons value rest inner =>
      obtain ⟨isScalar, inlineRest⟩ :
          value.isScalar = true ∧ rest.all Emitter.isInline = true := by
        simpa [Emitter.isInline] using inline
      cases found : itemContext schema container node position value with
      | error cycle =>
          rw [visitItems, itemBranches, found]
          exact ⟨parts, .of_error cycle⟩
      | ok place =>
          have deep := (below_of_context found).1.deep
          have announced : observer.item emitter place position =
              emitter.inlineItem place before after parts closers := by
            change emitter.item place position = _
            rw [item, opened]
          obtain ⟨written, part, emitted, opened'⟩ :=
            inlineItem_closers emitter place before after parts closers
          obtain ⟨parts', covers⟩ := inner inlineRest (position + 1) opened'
          refine ⟨parts', ?_⟩
          rw [visitItems_cons found, itemBranches, found, announced, emitted, visit_emitted deep]
          simp only [branches_of_isScalar isScalar, Branches.check, Outline.check]
          exact covers

/-! ## Values -/

theorem emitValue_hidden {position : Position} {before : List Char} {value : Json}
    (hidden : place.shape = .opaqueValue) :
    emitValue schema position before place value emitter =
      (emitter.writeLine (before ++ value.compactChars ++ position.after), .ok ()) := by
  unfold emitValue
  rw [hidden]

mutual

theorem emitValue_covers {place : Context} {value : Json} (emitter : Emitter)
    (position : Position) (before : List Char) (below : Below place value) :
    Covers (emitValue schema position before place value emitter)
      (branches schema place value).check emitter.closers := by
  by_cases shape : place.shape = .opaqueValue
  · rw [emitValue_hidden shape, branches_of_opaque below shape]
    exact .of_ok rfl
  match value with
  | .object members =>
      obtain ⟨node, placed⟩ := node_of_shape below shape
      rw [emitValue_object shape, branches, placed]
      generalize opens : emitter.openNode _ position.nodeCloser = opened
      have stack : opened.closers = position.nodeCloser :: emitter.closers := opens ▸ rfl
      rw [visit_object (enter_open below.deep stack position.nodeCloser_ne) placed]
      exact (visitMembers_covers members stack).leave
  | .array items =>
      obtain ⟨node, placed⟩ := node_of_shape below shape
      rw [emitValue_array shape, branches, placed]
      cases inline : items.all Emitter.isInline with
      | true =>
          rw [if_pos rfl]
          generalize opens : emitter.open_ _ = opened
          have stack : opened.closers =
              .inlineArray before position.after [] :: emitter.closers := opens ▸ rfl
          rw [visit_array (enter_open below.deep stack (by simp)) placed]
          obtain ⟨parts, covers⟩ := visitItems_inline_covers inline 0 stack
          exact covers.leave
      | false =>
          rw [if_neg (by simp)]
          generalize opens : emitter.openIndented _ position.arrayCloser = opened
          have stack : opened.closers = position.arrayCloser :: emitter.closers := opens ▸ rfl
          rw [visit_array (enter_open below.deep stack position.arrayCloser_ne) placed]
          exact (visitItems_covers 0 items stack).leave
  | .null | .boolean _ | .number _ | .string _ =>
      rw [emitValue_scalar shape rfl, branches_of_isScalar rfl]
      exact .of_ok rfl

theorem visitMembers_covers {emitter : Emitter} {container : Context} {node : Node}
    {closers : List Closer} (members : Members) (opened : emitter.closers = closers) :
    Covers (visitMembers schema observer container node members emitter)
      (memberBranches schema container node members).check closers := by
  match members with
  | [] => exact .of_ok opened
  | (key, value) :: rest =>
      cases found : memberContext schema container node key value with
      | error cycle =>
          rw [visitMembers, memberBranches, found]
          exact .of_error cycle
      | ok place =>
          obtain ⟨below, named⟩ := below_of_context found
          rw [visitMembers_cons found, visitMember_eq below named, memberBranches, found]
          have covers := emitValue_covers emitter .argument (callStart key) below
          rw [opened] at covers
          exact covers.andThen fun same => visitMembers_covers rest same

theorem visitItems_covers {emitter : Emitter} {container : Context} {node : Node}
    {position : Position} {closers : List Closer} (index : Nat) (items : List Json)
    (lines : emitter.closers = position.arrayCloser :: closers) :
    Covers (visitItems schema observer container node index items emitter)
      (itemBranches schema container node index items).check
      (position.arrayCloser :: closers) := by
  match items with
  | [] => exact .of_ok lines
  | value :: rest =>
      cases found : itemContext schema container node index value with
      | error cycle =>
          rw [visitItems, itemBranches, found]
          exact .of_error cycle
      | ok place =>
          have below := (below_of_context found).1
          rw [visitItems_cons found, visit_item_eq below index lines, itemBranches, found]
          have covers := emitValue_covers emitter .element [] below
          rw [lines] at covers
          exact covers.andThen fun same => visitItems_covers (index + 1) rest same

end

/-! ## Documents -/

theorem context_node {path : List Step} {node : Node} {value : Json} {parent : Option Json}
    {key : Option Step} (found : context schema path (some node) value parent key = .ok place) :
    schema.effective value node = .ok place.node := by
  simp only [context] at found
  cases effective : schema.effective value node with
  | error cycle =>
      rw [effective] at found
      cases found
  | ok applied =>
      rw [effective] at found
      cases found
      rfl

/-- The emitter fails on a document where a walk of everything does, unless the document is
an array. -/
theorem visit_root_result {document : Json} (config : EmitterConfig)
    (root : place.isRoot = true) (shape : place.shape = shapeOf place.node document)
    (notArray : place.shape ≠ .array) :
    (visit schema observer place document (start config)).2 =
      (branches schema place document).check := by
  have enters : observer.enter (start config) place = _ := enter_root (start config) root
  by_cases isObject : place.shape = .object
  · obtain ⟨node, members, placed, rfl⟩ := members_of_shape shape isObject
    rw [if_pos isObject] at enters
    rw [visit_object enters placed, branches, placed]
    exact (visitMembers_covers members rfl).leave.result
  · rw [if_neg isObject] at enters
    rw [visit_of_stop enters]
    have nothing : branches schema place document = .finished := by
      rw [shape] at isObject notArray
      cases placed : place.node with
      | none => cases document <;> simp only [branches, placed]
      | some node =>
          rw [placed] at isObject notArray
          cases document with
          | object members => exact absurd rfl isObject
          | array items => exact absurd rfl notArray
          | _ => simp only [branches]
    rw [nothing]
    rfl

end Emitter

open Walk

/-- Generation and canonicalization fail on the same documents, and with the same cycle,
where no node applies to the document or it is not an array. -/
theorem generate_error_iff {schema : Schema} {document : Json}
    (notArray : ∀ items node, document = .array items →
      schema.effective document schema.root ≠ .ok (some node))
    (config : EmitterConfig) (cache : RuleCache) (wrapperFields : List String)
    (cycle : CyclicReference) :
    generate document schema config = .error cycle ↔
      (Canonical.canonicalizeCached cache document schema wrapperFields).1 =
        .error cycle := by
  have generates : generate document schema config = .error cycle ↔
      checkDocument document schema = .error cycle := by
    rw [checkDocument_eq]
    unfold generate Emitter.emit walk documentOutline
    cases found : context schema [] (some schema.root) document none none with
    | error cycle' => simp [Except.map]
    | ok place =>
        obtain ⟨samePath, _, _, shape⟩ := Emitter.context_spec found
        have root : place.isRoot = true := by simp [Context.isRoot, samePath]
        have notListed : place.shape ≠ .array := by
          intro isArray
          rw [shape] at isArray
          have applied := Emitter.context_node found
          cases placed : place.node with
          | none =>
              rw [placed] at isArray
              cases isArray
          | some node =>
              rw [placed] at isArray applied
              cases document with
              | array items => exact notArray items node rfl applied
              | _ => cases isArray
        have result : (visit schema Emitter.observer place document (.start config)).2 =
            (branches schema place document).check :=
          Emitter.visit_root_result config root shape notListed
        change _ ↔ (branches schema place document).check = _
        rw [← result]
        simp only
        generalize visit schema Emitter.observer place document (.start config) = outcome
        obtain ⟨written, outcome⟩ := outcome
        cases outcome <;> simp
  have canonicalizes : (Canonical.canonicalizeCached cache document schema wrapperFields).1 =
      .error cycle ↔ checkDocument document schema = .error cycle := by
    unfold Canonical.canonicalizeCached
    cases checkDocument document schema with
    | error cycle' => simp
    | ok _ => simp
  rw [generates, canonicalizes]

/-- A reference to a definition. -/
def loopNode : Node :=
  { Node.any with reference := some "#/definitions/loop" }

/-- A schema whose one definition refers to itself. -/
def loopSchema : Schema :=
  ⟨"", { Node.any with properties := [("next", loopNode)] }, [("#/definitions/loop", loopNode)]⟩

/-- Where the definition is known, following it comes back to it. -/
theorem effective_loop {schema : Schema}
    (known : schema.definition? "#/definitions/loop" = some loopNode) (value : Json) :
    schema.effective value loopNode =
      .error ⟨["#/definitions/loop", "#/definitions/loop"]⟩ := by
  have follows : schema.Follows [] loopNode
      (.error ⟨["#/definitions/loop", "#/definitions/loop"]⟩)
      ["#/definitions/loop", "#/definitions/loop"] :=
    .entered rfl (by simp) known (.repeated rfl (by simp))
  exact (Schema.EffectiveStep.unfollowed follows).spec.2

/-- A document with a property whose definition refers to itself is neither generated nor
canonicalized. -/
theorem generate_error_iff_on_loop :
    let document := Json.object [("on", .array [.string "push"]), ("next", .null)]
    let cycle : CyclicReference := ⟨["#/definitions/loop", "#/definitions/loop"]⟩
    (∀ items node, document = .array items →
        loopSchema.effective document loopSchema.root ≠ .ok (some node)) ∧
      (Canonical.canonicalizeCached RuleCache.empty document loopSchema []).1 =
        .error cycle ∧
      generate document loopSchema EmitterConfig.standard = .error cycle := by
  intro document cycle
  have notArray : ∀ items node, document = .array items →
      loopSchema.effective document loopSchema.root ≠ .ok (some node) :=
    fun _ _ same => nomatch same
  have fails : checkDocument document loopSchema = .error cycle := by
    rw [checkDocument_eq]
    have loops : loopSchema.effective .null loopNode = .error cycle := effective_loop rfl .null
    simp only [loopNode, loopSchema, Node.any] at loops
    simp [documentOutline, context, Except.map, Schema.effective_of_plain, loopSchema,
      loopNode, loops, Node.any, Node.isUnion, Schema.keepIfAccepted, Node.acceptsType, outline,
      branches, memberBranches, itemBranches, memberContext, itemContext, document,
      Node.propertyNode?, Node.patternNode?, Node.itemNode, List.lookup_cons, List.lookup_nil,
      Outline.check, Branches.check]
  have canonicalizes : (Canonical.canonicalizeCached RuleCache.empty document loopSchema []).1 =
      .error cycle := by
    rw [Canonical.canonicalizeCached, fails]
  exact ⟨notArray, canonicalizes, (generate_error_iff notArray _ _ _ _).mpr canonicalizes⟩

/-! ## Triggers with a reference that cannot be resolved -/

/-- A schema whose triggers have a property that refers to itself. -/
def loopedTriggersSchema : Schema :=
  { loopSchema with root := { Node.any with properties := [("on", loopSchema.root)] } }

/-- A document with that property. -/
def loopedTriggers : Json :=
  .object [("on", .object [("next", .null)])]

theorem documentOutline_loopedTriggers :
    let root : Context :=
      ⟨[], some loopedTriggersSchema.root, .object, loopedTriggers, none, none⟩
    let triggers := placeBelow root (.key "on") (some loopSchema.root) (.object [("next", .null)])
    documentOutline loopedTriggersSchema loopedTriggers =
      .ok (.node root (.branch .property
        (.node triggers (.failed ⟨["#/definitions/loop", "#/definitions/loop"]⟩)) .finished)) := by
  have loops : loopedTriggersSchema.effective .null loopNode =
      .error ⟨["#/definitions/loop", "#/definitions/loop"]⟩ := effective_loop rfl .null
  simp only [loopedTriggersSchema, loopNode, loopSchema, Node.any] at loops
  simp [documentOutline, context, Except.map, Schema.effective_of_plain, loopedTriggersSchema,
    loopSchema, loopNode, loops, Node.any, Node.isUnion, Schema.keepIfAccepted,
    Node.acceptsType, outline, branches, memberBranches, memberContext, loopedTriggers,
    Node.propertyNode?, shapeOf]
  rfl

end Pipewright
