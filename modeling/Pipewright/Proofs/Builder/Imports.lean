import Pipewright.Proofs.Builder.Leftovers
import Pipewright.Proofs.Expression.Decomposition
import Pipewright.Proofs.Walk.Addresses

/-!
# Helpers that generated source imports

The import line names the root factory and, behind it, the helpers that the source calls.
Which ones these are can be told from the places of the document.  An object below the root
is a call of the node factory, and a string that holds an expression is a call of the
expression helper, unless no node applies to it.  A root that is not an object is written as
a literal, which calls neither.
-/

namespace Pipewright

open Walk

/-- The place holds a string with an expression, and a node applies to it. -/
def Context.HoldsExpression (place : Context) : Prop :=
  place.shape ≠ .opaqueValue ∧
    ∃ text, place.value = .string text ∧ Expression.HoldsExpression text.toList

namespace Walk

/-- Is a place entered that becomes a call of the node factory, unless it is the root? -/
def Event.callsNode : Event → Bool
  | .enter place => place.shape = .object
  | _ => false

/-- Is a place entered that becomes a call of the expression helper? -/
def Event.callsExpression : Event → Bool
  | .enter place => place.shape ≠ .opaqueValue && Emitter.callsHelper place.value
  | _ => false

theorem Event.callsNode_iff {event : Event} :
    event.callsNode = true ↔ ∃ place, event = .enter place ∧ place.shape = .object := by
  cases event with
  | enter place => simp [callsNode]
  | property | item | leave => simp [callsNode]

theorem Event.callsExpression_iff {event : Event} :
    event.callsExpression = true ↔ ∃ place, event = .enter place ∧ place.HoldsExpression := by
  cases event with
  | enter place =>
      have holds : Emitter.callsHelper place.value = true ↔
          ∃ text, place.value = .string text ∧ Expression.HoldsExpression text.toList := by
        cases place.value with
        | string text => simp [Emitter.callsHelper, Expression.containsExpression_iff]
        | null | boolean | number | array | object => simp [Emitter.callsHelper]
      simp [callsExpression, Context.HoldsExpression, holds]
  | property | item | leave => simp [callsExpression]

end Walk

namespace Emitter

variable {schema : Schema} {emitter middle written : Emitter} {place : Context}

/-- The helpers that are called at the places entered have been noted. -/
structure Notes (emitter written : Emitter) (events : List Event) : Prop where
  node : written.usesNode = (emitter.usesNode || events.any Event.callsNode)
  expression :
    written.usesExpression = (emitter.usesExpression || events.any Event.callsExpression)

namespace Notes

variable {events before after : List Event}

theorem nil (emitter : Emitter) : Notes emitter emitter [] :=
  ⟨(Bool.or_false _).symm, (Bool.or_false _).symm⟩

/-- Nothing is noted for a line that is opened. -/
theorem openIndented (emitter : Emitter) (line : List Char) (closer : Closer) :
    Notes emitter (emitter.openIndented line closer) [] :=
  ⟨(nil emitter).node, (nil emitter).expression⟩

theorem trans (first : Notes emitter middle before) (second : Notes middle written after) :
    Notes emitter written (before ++ after) where
  node := by rw [List.any_append, ← Bool.or_assoc, ← first.node, second.node]
  expression := by rw [List.any_append, ← Bool.or_assoc, ← first.expression, second.expression]

/-- Nothing is noted for an announcement. -/
theorem announced (announcement : Announcement) (notes : Notes emitter written events) :
    Notes emitter written (announcement.event place :: events) := by
  cases announcement <;> exact ⟨notes.node, notes.expression⟩

theorem leave (emitter : Emitter) (place : Context) :
    Notes emitter (emitter.leave place) [.leave place] := by
  unfold Emitter.leave
  split <;> exact ⟨(Bool.or_false _).symm, (Bool.or_false _).symm⟩

theorem enter (node : written.usesNode = (emitter.usesNode || (Event.enter place).callsNode))
    (expression : written.usesExpression =
      (emitter.usesExpression || (Event.enter place).callsExpression)) :
    Notes emitter written [.enter place] :=
  ⟨by rw [node, List.any_cons, List.any_nil, Bool.or_false],
    by rw [expression, List.any_cons, List.any_nil, Bool.or_false]⟩

/-- A place without others below it. -/
theorem lone (notes : Notes emitter written [.enter place]) :
    Notes emitter written (Outline.node place .finished).events :=
  notes.trans (⟨(Bool.or_false _).symm, (Bool.or_false _).symm⟩ : Notes _ _ [.leave place])

end Notes

/-! ## Values -/

theorem callsNode_of_scalar {value : Json} (below : Below place value)
    (isScalar : value.isScalar = true) : (Event.enter place).callsNode = false := by
  rw [Event.callsNode, below.shape]
  cases value with
  | array | object => cases isScalar
  | null | boolean | number | string => cases place.node <;> rfl

theorem notes_hidden (hidden : place.shape = .opaqueValue)
    (node : written.usesNode = emitter.usesNode)
    (expression : written.usesExpression = emitter.usesExpression) :
    Notes emitter written [.enter place] :=
  .enter (by simp [Event.callsNode, hidden, node])
    (by simp [Event.callsExpression, hidden, expression])

theorem notes_scalar {value : Json} (below : Below place value) (isScalar : value.isScalar = true)
    (shape : place.shape ≠ .opaqueValue) (node : written.usesNode = emitter.usesNode)
    (expression : written.usesExpression = (emitter.usesExpression || callsHelper value)) :
    Notes emitter written [.enter place] :=
  .enter (by simp [callsNode_of_scalar below isScalar, node])
    (by simp [Event.callsExpression, shape, below.value, expression])

theorem notes_inlineItem {before after : List Char} {parts : List (List Char)} {value : Json}
    (below : Below place value) (isScalar : value.isScalar = true) (closers : List Closer) :
    Notes emitter (emitter.inlineItem place before after parts closers) [.enter place] := by
  unfold inlineItem
  split
  · next hidden => exact notes_hidden hidden rfl rfl
  · next shape => exact notes_scalar below isScalar shape rfl (by rw [below.value]; rfl)

theorem visitItems_inline_notes {container : Context} {node : Node} {items : List Json}
    (inline : items.all Emitter.isInline = true) (position : Nat) {before after : List Char}
    {parts : List (List Char)} {closers : List Closer}
    (opened : emitter.closers = .inlineArray before after parts :: closers)
    (succeeded : (visitItems schema observer container node position items emitter).2 = .ok ()) :
    Notes emitter (visitItems schema observer container node position items emitter).1
      (itemBranches schema container node position items).events := by
  induction items generalizing emitter position parts with
  | nil => exact .nil emitter
  | cons value rest inner =>
      obtain ⟨isScalar, inlineRest⟩ :
          value.isScalar = true ∧ rest.all Emitter.isInline = true := by
        simpa [Emitter.isInline] using inline
      obtain ⟨place, found, _, whole⟩ := visitItems_of_ok succeeded
      have below := (below_of_context found).1
      have announced : observer.item emitter place position =
          emitter.inlineItem place before after parts closers := by
        change emitter.item place position = _
        rw [item, opened]
      have noted : Notes emitter (emitter.inlineItem place before after parts closers) _ :=
        notes_inlineItem below isScalar closers
      obtain ⟨written, part, emitted, opened'⟩ :=
        inlineItem_closers emitter place before after parts closers
      rw [whole, announced, emitted, visit_emitted below.deep] at succeeded ⊢
      rw [emitted] at noted
      have first : Notes emitter written [.enter place] := ⟨noted.node, noted.expression⟩
      have others := inner inlineRest (position + 1) opened' succeeded
      rw [itemBranches, found]
      simp only [branches_of_isScalar isScalar]
      exact (first.lone.trans others).announced (.item position)

theorem Covers.closers_of_ok {outcome : Outcome Emitter} {checked : Resolved Unit}
    {closers : List Closer} (covers : Covers outcome checked closers)
    (succeeded : outcome.2 = .ok ()) : outcome.1.closers = closers :=
  covers.closers (covers.result.symm.trans succeeded)

mutual

/-- Writing a value notes what is called at its place and at the places below. -/
theorem emitValue_notes {place : Context} {value : Json} (emitter : Emitter)
    (position : Position) (before : List Char) (below : Below place value)
    (succeeded : (emitValue schema position before place value emitter).2 = .ok ()) :
    Notes emitter (emitValue schema position before place value emitter).1
      (outline schema place value).events := by
  -- in every case the place is entered, what is below it is written, and then it is left
  by_cases shape : place.shape = .opaqueValue
  · rw [emitValue_hidden shape, outline, branches_of_opaque below shape]
    refine (notes_hidden shape ?_ ?_).lone
    · rfl
    · rfl
  match value with
  | .object members =>
      obtain ⟨node, placed⟩ := node_of_shape below shape
      have isObject : place.shape = .object := by rw [below.shape, placed]; rfl
      rw [emitValue_object shape] at succeeded ⊢
      rw [outline, branches, placed]
      generalize opens : emitter.openNode _ position.nodeCloser = opened at succeeded ⊢
      have entered : Notes emitter opened [.enter place] := by
        subst opens
        exact .enter (by simp [openNode, Event.callsNode, isObject])
          (by simp [openNode, openIndented, Event.callsExpression, below.value, callsHelper])
      have stack : opened.closers = position.nodeCloser :: emitter.closers := opens ▸ rfl
      rw [visit_object (enter_open below.deep stack position.nodeCloser_ne) placed]
        at succeeded ⊢
      obtain ⟨visited, left⟩ := leaveNode_of_ok succeeded
      rw [left]
      exact entered.trans ((visitMembers_notes members visited).trans (.leave _ place))
  | .array items =>
      obtain ⟨node, placed⟩ := node_of_shape below shape
      have isArray : place.shape = .array := by rw [below.shape, placed]; rfl
      have entered : ∀ opened : Emitter, opened.usesNode = emitter.usesNode →
          opened.usesExpression = emitter.usesExpression →
          Notes emitter opened [.enter place] := fun opened sameNode sameExpression =>
        .enter (by simp [sameNode, Event.callsNode, isArray])
          (by simp [sameExpression, Event.callsExpression, below.value, callsHelper])
      rw [emitValue_array shape] at succeeded ⊢
      rw [outline, branches, placed]
      cases inline : items.all Emitter.isInline with
      | true =>
          rw [inline, if_pos rfl] at succeeded
          rw [if_pos rfl]
          generalize opens : emitter.open_ _ = opened at succeeded ⊢
          have stack : opened.closers =
              .inlineArray before position.after [] :: emitter.closers := opens ▸ rfl
          rw [visit_array (enter_open below.deep stack (by simp)) placed] at succeeded ⊢
          obtain ⟨visited, left⟩ := leaveNode_of_ok succeeded
          rw [left]
          exact (entered opened (opens ▸ rfl) (opens ▸ rfl)).trans
            ((visitItems_inline_notes inline 0 stack visited).trans (.leave _ place))
      | false =>
          rw [inline, if_neg (by simp)] at succeeded
          rw [if_neg (by simp)]
          generalize opens : emitter.openIndented _ position.arrayCloser = opened
            at succeeded ⊢
          have stack : opened.closers = position.arrayCloser :: emitter.closers := opens ▸ rfl
          rw [visit_array (enter_open below.deep stack position.arrayCloser_ne) placed]
            at succeeded ⊢
          obtain ⟨visited, left⟩ := leaveNode_of_ok succeeded
          rw [left]
          exact (entered opened (opens ▸ rfl) (opens ▸ rfl)).trans
            ((visitItems_notes 0 items stack visited).trans (.leave _ place))
  | .null | .boolean _ | .number _ | .string _ =>
      rw [emitValue_scalar shape rfl, outline, branches_of_isScalar rfl]
      refine (notes_scalar below rfl shape ?_ ?_).lone
      · rfl
      · rfl

theorem visitMembers_notes {emitter : Emitter} {container : Context} {node : Node}
    (members : Members)
    (succeeded : (visitMembers schema observer container node members emitter).2 = .ok ()) :
    Notes emitter (visitMembers schema observer container node members emitter).1
      (memberBranches schema container node members).events := by
  match members with
  | [] => exact .nil emitter
  | (key, value) :: rest =>
      obtain ⟨place, found, first, whole⟩ := visitMembers_of_ok succeeded
      obtain ⟨below, named⟩ := below_of_context found
      rw [whole] at succeeded ⊢
      rw [visitMember_eq below named] at first succeeded ⊢
      rw [memberBranches, found]
      exact ((emitValue_notes emitter .argument (callStart key) below first).trans
        (visitMembers_notes rest succeeded)).announced .property

theorem visitItems_notes {emitter : Emitter} {container : Context} {node : Node}
    {position : Position} {closers : List Closer} (index : Nat) (items : List Json)
    (lines : emitter.closers = position.arrayCloser :: closers)
    (succeeded : (visitItems schema observer container node index items emitter).2 = .ok ()) :
    Notes emitter (visitItems schema observer container node index items emitter).1
      (itemBranches schema container node index items).events := by
  match items with
  | [] => exact .nil emitter
  | value :: rest =>
      obtain ⟨place, found, first, whole⟩ := visitItems_of_ok succeeded
      have below := (below_of_context found).1
      rw [whole] at succeeded ⊢
      rw [visit_item_eq below index lines] at first succeeded ⊢
      -- the next element is announced to the array again, whatever this one has opened
      have stack := (emitValue_covers emitter .element [] below).closers_of_ok first
      rw [lines] at stack
      rw [itemBranches, found]
      exact ((emitValue_notes emitter .element [] below first).trans
        (visitItems_notes (index + 1) rest stack succeeded)).announced (.item index)

end

/-! ## Documents -/

/-- A root that is an object is looked into, and what is called below it is noted. -/
theorem visit_root_notes {document : Json} {config : EmitterConfig}
    (root : place.isRoot = true) (shape : place.shape = shapeOf place.node document)
    (isObject : place.shape = .object)
    (succeeded : (visit schema observer place document (start config)).2 = .ok ()) :
    (branches schema place document).check = .ok () ∧
      Notes (start config) (visit schema observer place document (start config)).1
        ((branches schema place document).events ++ [.leave place]) := by
  have notArray : place.shape ≠ .array := by simp [isObject]
  have checks : _ = (branches schema place document).check :=
    visit_root_result config root shape notArray
  refine ⟨checks.symm.trans succeeded, ?_⟩
  obtain ⟨node, members, placed, rfl⟩ := members_of_shape shape isObject
  have enters : observer.enter (start config) place = _ := enter_root (start config) root
  rw [if_pos isObject] at enters
  rw [visit_object enters placed] at succeeded ⊢
  obtain ⟨visited, left⟩ := leaveNode_of_ok succeeded
  rw [left, branches, placed]
  exact (Notes.openIndented _ _ _).trans
    ((visitMembers_notes members visited).trans (.leave _ place))

/-- Nothing is noted for a root that is written as a literal. -/
theorem visit_literal_notes {document : Json} {config : EmitterConfig}
    (root : place.isRoot = true) (notObject : place.shape ≠ .object) :
    Notes (start config) (visit schema observer place document (start config)).1
      [.leave place] := by
  have enters : observer.enter (start config) place = _ := enter_root (start config) root
  rw [if_neg notObject] at enters
  rw [visit_of_stop enters]
  exact (Notes.openIndented _ _ _).trans (.leave _ place)

/-- The import line, with those of the two helpers that are used behind the root factory. -/
def importLine (config : EmitterConfig) (node expression : Bool) : List Char :=
  let helpers := config.rootFactory :: (if node then [config.nodeFactory] else []) ++
    (if expression then [config.expressionHelper] else [])
  "import \x7b ".toList ++ (String.intercalate ", " helpers).toList ++ " \x7d from ".toList ++
    Json.quoteChars config.module.toList ++ [';', '\n']

theorem header_eq_importLine (emitter : Emitter) :
    emitter.header = importLine emitter.config emitter.usesNode emitter.usesExpression :=
  rfl

theorem header_prefix_text (emitter : Emitter) : emitter.header <+: emitter.text.toList := by
  rw [text, String.toList_ofList, chars]
  split
  · exact List.prefix_rfl
  · exact List.prefix_append _ _

end Emitter

/-! ## The walk of the whole document -/

/-- The walk of the whole document enters a place of this kind. -/
def Enters (document : Json) (schema : Schema) (kind : Context → Prop) : Prop :=
  ∃ place, .enter place ∈ fullWalk document schema ∧ kind place

namespace Walk

variable {schema : Schema} {document : Json} {root place : Context}

theorem isRoot_of_mem_events {event : Event}
    (among : event ∈ (branches schema place document).events) : event.place.isRoot = false := by
  obtain ⟨step, rest, path⟩ := isBelow_iff.mp
    (Branches.isBelow_of_mem_events (branches_nested schema place document) event among)
  change event.path.isEmpty = false
  rw [path]
  simp

/-- Of the places of a document, only the first one is the root. -/
theorem enter_mem_outline (among : .enter place ∈ (outline schema root document).events) :
    place = root ∨
      place.isRoot = false ∧ .enter place ∈ (branches schema root document).events := by
  rcases List.mem_cons.mp among with same | later
  · exact .inl (Event.enter.inj same)
  · rcases List.mem_append.mp later with below | last
    · exact .inr ⟨isRoot_of_mem_events below, below⟩
    · cases List.mem_singleton.mp last

theorem documentOutline_of_root
    (found : context schema [] (some schema.root) document none none = .ok root) :
    documentOutline schema document = .ok (outline schema root document) := by
  rw [documentOutline, found]
  rfl

theorem eq_root_of_entered
    (found : context schema [] (some schema.root) document none none = .ok root)
    (entered : .enter place ∈ fullWalk document schema) (isRoot : place.isRoot = true) :
    place = root := by
  have among := (heard_sublist (documentOutline_of_root found)).subset entered
  rcases enter_mem_outline among with same | ⟨inner, _⟩
  · exact same
  · rw [isRoot] at inner
    cases inner

/-- What is noted below the root is what the walk of the whole document enters there. -/
theorem any_events_iff (full : fullWalk document schema = (outline schema root document).events)
    {calls : Event → Bool} {kind : Context → Prop} (quiet : calls (Event.leave root) = false)
    (outer : ¬kind root) (calls_iff : ∀ event ∈ (branches schema root document).events,
      (calls event = true ↔ ∃ place, event = .enter place ∧ kind place)) :
    ((branches schema root document).events ++ [Event.leave root]).any calls = true ↔
      Enters document schema kind := by
  rw [List.any_append, List.any_cons, quiet, List.any_nil, Bool.or_false, Bool.or_false,
    List.any_eq_true]
  constructor
  · rintro ⟨event, among, called⟩
    obtain ⟨place, rfl, isKind⟩ := (calls_iff event among).mp called
    refine ⟨place, ?_, isKind⟩
    rw [full]
    exact List.mem_cons_of_mem _ (List.mem_append_left _ among)
  · rintro ⟨place, entered, isKind⟩
    rw [full] at entered
    rcases enter_mem_outline entered with rfl | ⟨_, among⟩
    · exact absurd isKind outer
    · exact ⟨_, among, (calls_iff _ among).mpr ⟨place, rfl, isKind⟩⟩

end Walk

namespace Emitter

/-- What a fresh emitter has noted at the end of a document that it could emit. -/
theorem emit_uses_iff {document : Json} {schema : Schema} {config : EmitterConfig}
    (succeeded : ((start config).emit document schema).2 = .ok ()) :
    let final := ((start config).emit document schema).1
    let isChain := Enters document schema fun place =>
      place.isRoot = true ∧ place.shape = .object
    (final.usesNode = true ↔ isChain ∧
      Enters document schema fun place => place.isRoot = false ∧ place.shape = .object) ∧
    (final.usesExpression = true ↔ isChain ∧
      Enters document schema Context.HoldsExpression) := by
  intro final isChain
  unfold emit walk at succeeded
  have visited : final = (walk document schema observer (start config)).1 := rfl
  unfold walk at visited
  cases found : context schema [] (some schema.root) document none none with
  | error cycle =>
      rw [found] at succeeded
      cases succeeded
  | ok root =>
      rw [found] at succeeded visited
      obtain ⟨path, _, value, shape⟩ := context_spec found
      have isRoot : root.isRoot = true := by simp [Context.isRoot, path]
      by_cases isObject : root.shape = .object
      · obtain ⟨checks, notes⟩ := visit_root_notes isRoot shape isObject succeeded
        have full : fullWalk document schema = (outline schema root document).events :=
          fullWalk_eq_events (documentOutline_of_root found) checks
        have chain : isChain :=
          ⟨root, by rw [full]; exact List.mem_cons_self, isRoot, isObject⟩
        have noString : ¬root.HoldsExpression := by
          rintro ⟨_, text, isString, _⟩
          obtain ⟨_, members, _, isMembers⟩ := members_of_shape shape isObject
          rw [value, isMembers] at isString
          cases isString
        rw [visited, notes.node, notes.expression]
        simp only [start, Bool.false_or, chain, true_and]
        constructor
        · have outer : ¬(root.isRoot = false ∧ root.shape = .object) := by simp [isRoot]
          refine any_events_iff full rfl outer ?_
          intro event among
          rw [Event.callsNode_iff]
          constructor
          · rintro ⟨place, rfl, isObject⟩
            exact ⟨place, rfl, isRoot_of_mem_events among, isObject⟩
          · rintro ⟨place, same, _, isObject⟩
            exact ⟨place, same, isObject⟩
        · exact any_events_iff full rfl noString fun _ _ => Event.callsExpression_iff
      · have notes : Notes (start config)
            (visit schema observer root document (start config)).1 [.leave root] :=
          visit_literal_notes isRoot isObject
        have noChain : ¬isChain := by
          rintro ⟨place, entered, atRoot, isChained⟩
          rw [eq_root_of_entered found entered atRoot] at isChained
          exact isObject isChained
        rw [visited, notes.node, notes.expression]
        simp [start, noChain, Event.callsNode, Event.callsExpression]

end Emitter

open Emitter

/-- Generated source begins with an import line.  Behind the root factory this line names the
node factory exactly if the root of the document is an object and the walk of the whole
document enters another object; and then the expression helper exactly if the root is an
object and that walk enters a string with an expression to which a node applies. -/
theorem imports_match_use {document : Json} {schema : Schema} {config : EmitterConfig}
    {source : String} (generated : generate document schema config = .ok source) :
    ∃ node expression : Bool, importLine config node expression <+: source.toList ∧
      (node = true ↔
        (Enters document schema fun place => place.isRoot = true ∧ place.shape = .object) ∧
        (Enters document schema fun place => place.isRoot = false ∧ place.shape = .object)) ∧
      (expression = true ↔
        (Enters document schema fun place => place.isRoot = true ∧ place.shape = .object) ∧
        Enters document schema Context.HoldsExpression) := by
  have config_final : ((start config).emit document schema).1.config = config :=
    config_emitAll config [(document, schema)]
  have uses := @emit_uses_iff document schema config
  unfold generate at generated
  generalize (start config).emit document schema = outcome at generated config_final uses
  obtain ⟨final, result⟩ := outcome
  cases result with
  | error cycle => cases generated
  | ok _ =>
      cases generated
      obtain ⟨node, expression⟩ := uses rfl
      refine ⟨final.usesNode, final.usesExpression, ?_, node, expression⟩
      have first := header_prefix_text final
      rw [header_eq_importLine, config_final] at first
      exact first

/-! ## A job with an expression -/

/-- A job whose name holds an expression, and a triggering branch. -/
def releaseJob : Json :=
  .object [("jobs", .object [("name", .string "build $\x7b\x7b x \x7d\x7d")]),
    ("on", .array [.string "push"])]

def releaseJobOutline : Outline :=
  let jobs : Json := .object [("name", .string "build $\x7b\x7b x \x7d\x7d")]
  let root : Context := ⟨[], some workflowSchema.root, .object, releaseJob, none, none⟩
  let jobs := placeBelow root (.key "jobs") (some Node.any) jobs
  let name := placeBelow jobs (.key "name") (some Node.any)
    (.string "build $\x7b\x7b x \x7d\x7d")
  let triggers := placeBelow root (.key "on") (some Node.any) (.array [.string "push"])
  let push := placeBelow triggers (.index 0) (some Node.any) (.string "push")
  .node root
    (.branch .property (.node jobs (.branch .property (.node name .finished) .finished))
      (.branch .property
        (.node triggers (.branch (.item 0) (.node push .finished) .finished)) .finished))

theorem documentOutline_releaseJob :
    documentOutline workflowSchema releaseJob = .ok releaseJobOutline := by
  simp [documentOutline, context, Except.map, Schema.effective_of_plain, workflowSchema,
    Node.any, Node.nothing, Node.isUnion, Schema.keepIfAccepted, Node.acceptsType, outline,
    branches, memberBranches, itemBranches, memberContext, itemContext, releaseJob,
    Node.propertyNode?, Node.patternNode?, Node.itemNode, shapeOf, List.lookup_cons,
    List.lookup_nil]
  rfl

/-- The import line of the job's source names both helpers. -/
theorem imports_match_use_of_releaseJob :
    ∃ source, generate releaseJob workflowSchema EmitterConfig.standard = .ok source ∧
      "import \x7b pipeline, node, expr \x7d from \"@pipeline-dsl/builder\";\n".toList <+:
        source.toList := by
  have succeeded : ((start EmitterConfig.standard).emit releaseJob workflowSchema).2 =
      .ok () := by
    rw [emit, walk_eq_run, documentOutline_releaseJob]
    decide +kernel
  obtain ⟨source, generated⟩ :
      ∃ source, generate releaseJob workflowSchema EmitterConfig.standard = .ok source := by
    unfold generate
    generalize (start EmitterConfig.standard).emit releaseJob workflowSchema = outcome
      at succeeded
    obtain ⟨final, result⟩ := outcome
    cases succeeded
    exact ⟨final.text, rfl⟩
  have full : fullWalk releaseJob workflowSchema = releaseJobOutline.events :=
    fullWalk_eq_events documentOutline_releaseJob rfl
  have entered : ∀ position place,
      releaseJobOutline.events[position]? = some (Event.enter place) →
      Event.enter place ∈ fullWalk releaseJob workflowSchema :=
    fun _ _ found => full ▸ List.mem_of_getElem? found
  obtain ⟨node, expression, first, node_iff, expression_iff⟩ := imports_match_use generated
  have chain : Enters releaseJob workflowSchema fun place =>
      place.isRoot = true ∧ place.shape = .object := ⟨_, entered 0 _ rfl, rfl, rfl⟩
  have named : node = true := node_iff.mpr ⟨chain, _, entered 2 _ rfl, rfl, rfl⟩
  have holds : expression = true := expression_iff.mpr ⟨chain, _, entered 4 _ rfl,
    by decide, _, rfl, "build ".toList, " x ".toList, [], by decide⟩
  rw [named, holds] at first
  refine ⟨source, generated, ?_⟩
  have line : importLine EmitterConfig.standard true true =
      "import \x7b pipeline, node, expr \x7d from \"@pipeline-dsl/builder\";\n".toList := by
    decide +kernel
  rw [← line]
  exact first

end Pipewright
