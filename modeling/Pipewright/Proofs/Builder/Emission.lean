import Pipewright.Proofs.Builder.Progress
import Pipewright.Proofs.Walk.Steps

/-!
# What the emitter writes

Walking a document with the emitter writes the source of one of its layouts, and
leaves the level and the open closers as they were.  Which layout it is depends on the
schema; that it is one of the document does not.
-/

namespace Pipewright

namespace Emitter

open Layout Walk

variable {schema : Schema} {emitter : Emitter} {place : Context} {body : List Char}
  {level : Nat} {closers : List Closer}

/-! ## Places -/

/-- A place below the root, for the given value. -/
structure Below (place : Context) (content : Json) : Prop where
  deep : place.isRoot = false
  value : place.value = content
  shape : place.shape = shapeOf place.node content

theorem context_spec {path : List Step} {declared : Option Node} {value : Json}
    {parent : Option Json} {key : Option Step}
    (found : context schema path declared value parent key = .ok place) :
    place.path = path ∧ place.key = key ∧ place.value = value ∧
      place.shape = shapeOf place.node value := by
  have same := context_eq found
  exact ⟨congrArg Context.path same, congrArg Context.key same, congrArg Context.value same,
    congrArg Context.shape same⟩

theorem below_of_context {path : List Step} {step : Step} {declared : Option Node}
    {value : Json} {parent : Option Json} {key : Option Step}
    (found : context schema (path ++ [step]) declared value parent key = .ok place) :
    Below place value ∧ place.key = key := by
  obtain ⟨samePath, sameKey, sameValue, shape⟩ := context_spec found
  have deep : place.isRoot = false := by simp [Context.isRoot, samePath]
  exact ⟨⟨deep, sameValue, shape⟩, sameKey⟩

/-! ## Entering a node -/

/-- A node that is not emitted yet is looked into. -/
theorem enter_open {closer : Closer} (deep : place.isRoot = false)
    (opened : emitter.closers = closer :: closers) (unwritten : closer ≠ .emitted) :
    observer.enter emitter place = (emitter, .continue) := by
  change emitter.enter place = _
  rw [enter, deep, opened]
  cases closer with
  | emitted => exact absurd rfl unwritten
  | _ => rfl

/-- What has been emitted is not looked into. -/
theorem visit_emitted {value : Json} (deep : place.isRoot = false) :
    visit schema observer place value (emitter.open_ .emitted) = (emitter, .ok ()) := by
  have stops : observer.enter (emitter.open_ .emitted) place =
      (emitter.open_ .emitted, .stop) := by
    change (emitter.open_ .emitted).enter place = _
    rw [enter, deep]
    rfl
  rw [visit_of_stop stops]
  rfl

/-! ## Arrays on one line -/

theorem inlineItem_stands {before after : List Char} {parts : List (List Char)} {value : Json}
    (below : Below place value) (isScalar : value.isScalar = true)
    (stands : emitter.Stands body level (.inlineArray before after parts :: closers)) :
    ∃ (element : Layout) (written : Emitter), element.document = value ∧
      emitter.inlineItem place before after parts closers = written.open_ .emitted ∧
      written.Stands body level
        (.inlineArray before after (parts ++ [element.leafText]) :: closers) := by
  have stands' : ∀ part, Stands { emitter with
      closers := .inlineArray before after (parts ++ [part]) :: closers } body level
      (.inlineArray before after (parts ++ [part]) :: closers) := fun _ =>
    ⟨stands.config, stands.started, stands.body, stands.level, stands.width, rfl⟩
  unfold inlineItem
  rw [below.value]
  split
  · exact ⟨.opaqueValue value, { emitter with closers := _ :: closers }, rfl, rfl,
      stands' value.compactChars⟩
  · refine ⟨.scalar value isScalar, Emitter.noteLiteral { emitter with closers := _ :: closers }
      value, rfl, rfl, ?_⟩
    rw [leafText, ← stands.config]
    exact (stands' _).noteLiteral value

theorem visitItems_inline {container : Context} {node : Node} {before after : List Char}
    {items : List Json} (inline : items.all Emitter.isInline = true) (position : Nat)
    {parts : List (List Char)}
    (stands : emitter.Stands body level (.inlineArray before after parts :: closers))
    (succeeded : (visitItems schema observer container node position items emitter).2 = .ok ()) :
    ∃ elements, documents elements = items ∧
      (visitItems schema observer container node position items emitter).1.Stands body level
        (.inlineArray before after (parts ++ elements.map leafText) :: closers) := by
  induction items generalizing emitter position parts with
  | nil => exact ⟨[], rfl, by simpa [visitItems] using stands⟩
  | cons value rest inner =>
      obtain ⟨isScalar, inlineRest⟩ : value.isScalar = true ∧ rest.all Emitter.isInline = true := by
        simpa [Emitter.isInline] using inline
      obtain ⟨place, found, first, whole⟩ := visitItems_of_ok succeeded
      have below := (below_of_context found).1
      have announced : observer.item emitter place position =
          emitter.inlineItem place before after parts closers := by
        change emitter.item place position = _
        rw [item, stands.closers]
      obtain ⟨element, written, same, emitted, stands'⟩ := inlineItem_stands below isScalar stands
      rw [whole, announced, emitted, visit_emitted below.deep] at succeeded ⊢
      obtain ⟨elements, sameRest, writtenRest⟩ :=
        inner inlineRest (position + 1) stands' succeeded
      refine ⟨element :: elements, by rw [documents, same, sameRest], ?_⟩
      simpa using writtenRest

/-! ## Values -/

/-- How a value is announced and visited, as the argument of a call that starts with
`before` or as an element on a line of its own. -/
def emitValue (schema : Schema) (position : Position) (before : List Char) (place : Context)
    (content : Json) (emitter : Emitter) : Outcome Emitter :=
  match place.shape, content with
  | .opaqueValue, value =>
      (emitter.writeLine (before ++ value.compactChars ++ position.after), .ok ())
  | _, .object members =>
      visit schema observer place (.object members)
        (emitter.openNode (before ++ emitter.nodeCall) position.nodeCloser)
  | _, .array items =>
      visit schema observer place (.array items)
        (if items.all Emitter.isInline then
          emitter.open_ (.inlineArray before position.after [])
        else emitter.openIndented (before ++ ['[']) position.arrayCloser)
  | _, value =>
      ((emitter.writeLine (before ++ scalarLiteral emitter.config value ++
        position.after)).noteLiteral value, .ok ())

theorem emitValue_object {position : Position} {before : List Char} {members : Members}
    (shape : place.shape ≠ .opaqueValue) :
    emitValue schema position before place (.object members) emitter =
      visit schema observer place (.object members)
        (emitter.openNode (before ++ emitter.nodeCall) position.nodeCloser) := by
  unfold emitValue
  cases found : place.shape with
  | opaqueValue => exact absurd found shape
  | _ => rfl

theorem emitValue_array {position : Position} {before : List Char} {items : List Json}
    (shape : place.shape ≠ .opaqueValue) :
    emitValue schema position before place (.array items) emitter =
      visit schema observer place (.array items)
        (if items.all Emitter.isInline then
          emitter.open_ (.inlineArray before position.after [])
        else emitter.openIndented (before ++ ['[']) position.arrayCloser) := by
  unfold emitValue
  cases found : place.shape with
  | opaqueValue => exact absurd found shape
  | _ => rfl

theorem emitValue_scalar {position : Position} {before : List Char} {value : Json}
    (shape : place.shape ≠ .opaqueValue) (isScalar : value.isScalar = true) :
    emitValue schema position before place value emitter =
      ((emitter.writeLine (before ++ scalarLiteral emitter.config value ++
        position.after)).noteLiteral value, .ok ()) := by
  unfold emitValue
  cases found : place.shape with
  | opaqueValue => exact absurd found shape
  | _ =>
      cases value with
      | array => cases isScalar
      | object => cases isScalar
      | _ => rfl

theorem visitMember_eq {key : String} {value : Json} (below : Below place value)
    (named : place.key = some (.key key)) :
    visitMember schema observer place value emitter =
      emitValue schema .argument (callStart key) place value emitter := by
  have name : place.propertyName? = some key := by
    rw [Context.propertyName?, named]
  have announces : observer.property emitter place = emitter.property place := rfl
  rw [visitMember, announces, property, name, below.value]
  unfold emitValue
  cases place.shape with
  | opaqueValue => rfl
  | _ =>
      cases value with
      | array items =>
          simp only
          cases items.all Emitter.isInline <;> rfl
      | _ => rfl

/-- An element of an array with a line for each is announced and visited on its line. -/
theorem visit_item_eq {value : Json} (below : Below place value) {position : Position}
    (index : Nat) (lines : emitter.closers = position.arrayCloser :: closers) :
    visit schema observer place value (observer.item emitter place index) =
      emitValue schema .element [] place value emitter := by
  have announces : observer.item emitter place index = emitter.lineItem place := by
    change emitter.item place index = _
    rw [item, lines]
    cases position <;> rfl
  have emitted : ∀ content (written : Emitter),
      visit schema observer place content (written.open_ .emitted) = (written, .ok ()) :=
    fun _ _ => visit_emitted below.deep
  rw [announces, lineItem, below.value]
  unfold emitValue
  cases place.shape with
  | opaqueValue => exact emitted value (emitter.writeLine (value.compactChars ++ [',']))
  | _ =>
      cases value with
      | array items =>
          simp only
          cases items.all Emitter.isInline <;> rfl
      | object => rfl
      | _ =>
          exact emitted _ ((emitter.writeLine (scalarLiteral emitter.config _ ++
            [','])).noteLiteral _)

theorem Position.nodeCloser_ne (position : Position) : position.nodeCloser ≠ .emitted := by
  cases position <;> decide

theorem Position.arrayCloser_ne (position : Position) : position.arrayCloser ≠ .emitted := by
  cases position <;> decide

theorem node_of_shape {content : Json} (below : Below place content)
    (shape : place.shape ≠ .opaqueValue) : ∃ node, place.node = some node := by
  cases placed : place.node with
  | some node => exact ⟨node, rfl⟩
  | none =>
      have opaqueShape := below.shape
      rw [placed] at opaqueShape
      exact absurd opaqueShape shape

theorem emitValue_scalar_stands {position : Position} {before : List Char} {value : Json}
    (shape : place.shape ≠ .opaqueValue) (isScalar : value.isScalar = true)
    (stands : emitter.Stands body level closers) :
    (emitValue schema position before place value emitter).1.Stands
      (body ++ newLine level ++ before ++ (Layout.scalar value isScalar).text level ++
        position.after) level closers := by
  rw [emitValue_scalar shape isScalar, stands.config]
  have written := stands.writeLine
    (before ++ scalarLiteral EmitterConfig.standard value ++ position.after)
  simpa using written.noteLiteral value

theorem visit_inline_array {before after : List Char} {items : List Json}
    (below : Below place (.array items)) (shape : place.shape ≠ .opaqueValue)
    (inline : items.all Emitter.isInline = true) (stands : emitter.Stands body level closers)
    (succeeded : (visit schema observer place (.array items)
      (emitter.open_ (.inlineArray before after []))).2 = .ok ()) :
    ∃ elements, documents elements = items ∧
      (visit schema observer place (.array items)
        (emitter.open_ (.inlineArray before after []))).1.Stands
        (body ++ newLine level ++ before ++ (Layout.array elements).text level ++ after)
        level closers := by
  obtain ⟨node, placed⟩ := node_of_shape below shape
  have opened := stands.open_ (.inlineArray before after [])
  rw [visit_array (enter_open below.deep opened.closers (by simp)) placed] at succeeded ⊢
  obtain ⟨visited, left⟩ := leaveNode_of_ok succeeded
  obtain ⟨elements, same, written⟩ := visitItems_inline inline 0 opened visited
  refine ⟨elements, same, ?_⟩
  have inlineElements : Layout.isInline elements = true := by
    rw [Layout.isInline, same, inline]
  rw [left]
  change (Emitter.leave _ place).Stands _ level closers
  rw [text_inline inlineElements]
  simpa using written.leave_inlineArray place

mutual

/-- A value is written by one of its layouts. -/
theorem emitValue_stands {place : Context} {emitter : Emitter} {body : List Char}
    {level : Nat} {closers : List Closer} {value : Json} {position : Position}
    {before : List Char} (below : Below place value) (stands : emitter.Stands body level closers)
    (succeeded : (emitValue schema position before place value emitter).2 = .ok ()) :
    ∃ layout : Layout, layout.document = value ∧
      (emitValue schema position before place value emitter).1.Stands
        (body ++ newLine level ++ before ++ layout.text level ++ position.after) level
        closers := by
  by_cases shape : place.shape = .opaqueValue
  · refine ⟨.opaqueValue value, rfl, ?_⟩
    have written := stands.writeLine (before ++ value.compactChars ++ position.after)
    simp only [emitValue, shape, text_opaqueValue]
    simpa using written
  · match value with
    | .object members =>
        obtain ⟨node, placed⟩ := node_of_shape below shape
        have opened := stands.openNode (before ++ emitter.nodeCall) position.nodeCloser
        have entered := enter_open below.deep opened.closers position.nodeCloser_ne
        rw [emitValue_object shape, visit_object entered placed] at succeeded ⊢
        obtain ⟨visited, left⟩ := leaveNode_of_ok succeeded
        obtain ⟨layouts, same, written⟩ := visitMembers_stands opened visited
        refine ⟨.object layouts, by rw [document, same], ?_⟩
        rw [left]
        change (Emitter.leave _ place).Stands _ level closers
        have nodeCall : emitter.nodeCall = "node()".toList := by
          rw [Emitter.nodeCall, stands.config]
          rfl
        rw [nodeCall] at written ⊢
        simpa using written.leave_node place
    | .array items =>
        rw [emitValue_array shape] at succeeded ⊢
        cases inline : items.all Emitter.isInline with
        | true =>
            simp only [inline, if_true] at succeeded ⊢
            obtain ⟨elements, same, written⟩ :=
              visit_inline_array below shape inline stands succeeded
            exact ⟨.array elements, by rw [document, same], written⟩
        | false =>
            simp only [inline, Bool.false_eq_true, if_false] at succeeded ⊢
            obtain ⟨node, placed⟩ := node_of_shape below shape
            have opened := stands.openIndented (before ++ ['[']) position.arrayCloser
            have entered := enter_open below.deep opened.closers position.arrayCloser_ne
            rw [visit_array entered placed] at succeeded ⊢
            obtain ⟨visited, left⟩ := leaveNode_of_ok succeeded
            obtain ⟨elements, same, written⟩ := visitItems_stands 0 opened visited
            refine ⟨.array elements, by rw [document, same], ?_⟩
            have lines : Layout.isInline elements = false := by
              rw [Layout.isInline, same, inline]
            rw [left]
            change (Emitter.leave _ place).Stands _ level closers
            rw [text_lines lines]
            simpa using written.leave_array place
    | .null | .boolean _ | .number _ | .string _ =>
        exact ⟨.scalar _ rfl, rfl, emitValue_scalar_stands shape rfl stands⟩

theorem visitMembers_stands {emitter : Emitter} {body : List Char} {level : Nat}
    {closers : List Closer} {members : Members} {container : Context} {node : Node}
    (stands : emitter.Stands body level closers)
    (succeeded : (visitMembers schema observer container node members emitter).2 = .ok ()) :
    ∃ layouts, memberDocuments layouts = members ∧
      (visitMembers schema observer container node members emitter).1.Stands
        (body ++ calls level layouts) level closers := by
  match members with
  | [] => exact ⟨[], rfl, by simpa [visitMembers, calls] using stands⟩
  | (key, value) :: rest =>
      obtain ⟨place, found, first, whole⟩ := visitMembers_of_ok succeeded
      obtain ⟨below, named⟩ := below_of_context found
      rw [whole] at succeeded ⊢
      rw [visitMember_eq below named] at first succeeded ⊢
      obtain ⟨layout, same, written⟩ := emitValue_stands below stands first
      obtain ⟨layouts, sameRest, writtenRest⟩ := visitMembers_stands written succeeded
      refine ⟨(key, layout) :: layouts, by rw [memberDocuments, same, sameRest], ?_⟩
      simpa [calls, Position.after] using writtenRest

theorem visitItems_stands {emitter : Emitter} {body : List Char} {level : Nat}
    {closers : List Closer} {items : List Json} {container : Context} {node : Node}
    {position : Position} (index : Nat)
    (stands : emitter.Stands body level (position.arrayCloser :: closers))
    (succeeded : (visitItems schema observer container node index items emitter).2 = .ok ()) :
    ∃ elements, documents elements = items ∧
      (visitItems schema observer container node index items emitter).1.Stands
        (body ++ elementLines level elements) level (position.arrayCloser :: closers) := by
  match items with
  | [] => exact ⟨[], rfl, by simpa [visitItems, elementLines] using stands⟩
  | value :: rest =>
      obtain ⟨place, found, first, whole⟩ := visitItems_of_ok succeeded
      have below := (below_of_context found).1
      rw [whole] at succeeded ⊢
      rw [visit_item_eq below index stands.closers] at first succeeded ⊢
      obtain ⟨layout, same, written⟩ := emitValue_stands below stands first
      obtain ⟨elements, sameRest, writtenRest⟩ :=
        visitItems_stands (index + 1) written succeeded
      refine ⟨layout :: elements, by rw [documents, same, sameRest], ?_⟩
      simpa [elementLines, Position.after] using writtenRest

end

/-! ## Documents -/

/-- The call of the root factory for a layout, and the calls after it. -/
def rootText : Layout → List Char
  | .object members => "pipeline()".toList ++ calls 1 members
  | layout => "pipeline(".toList ++ layout.document.compactChars ++ [')']

theorem rootText_object (members : List (String × Layout)) :
    rootText (.object members) = "pipeline()".toList ++ calls 1 members :=
  rfl

theorem rootText_opaqueValue (value : Json) :
    rootText (.opaqueValue value) = "pipeline(".toList ++ value.compactChars ++ [')'] :=
  rfl

/-- At the root stands a chain of calls, or a literal. -/
inductive IsRoot : Layout → Prop where
  | chain (members : List (String × Layout)) : IsRoot (.object members)
  | literal (value : Json) : IsRoot (.opaqueValue value)

theorem start_stands (line : List Char) :
    ((start EmitterConfig.standard).openIndented line .root).Stands ('\n' :: line) 1
      [.root] :=
  ⟨rfl, by simp [start, openIndented, Source.indent, Source.pushLine],
    by simp [start, openIndented, Source.indent, Source.pushLine, Source.body, Source.empty,
      Source.indented], rfl, rfl, rfl⟩

theorem chars_of_left {line : List Char} (stands : emitter.Stands line 1 [.root]) :
    (emitter.leave place).chars =
      (emitter.leave place).header ++ line ++ newLine 1 ++ ".build();\n".toList := by
  obtain ⟨started, body⟩ := stands.leave_root place
  have nonempty : (emitter.leave place).source.isEmpty = false := by
    simpa [Source.isEmpty] using started
  rw [chars, nonempty]
  simp only [Bool.false_eq_true, if_false]
  rw [Source.chars_eq started, body]
  simp

theorem leave_config (emitter : Emitter) (place : Context) :
    (emitter.leave place).config = emitter.config := by
  unfold leave
  split <;> rfl

theorem members_of_shape {document : Json} (shape : place.shape = shapeOf place.node document)
    (isObject : place.shape = .object) :
    ∃ node members, place.node = some node ∧ document = .object members := by
  rw [shape] at isObject
  cases placed : place.node with
  | none =>
      rw [placed] at isObject
      cases isObject
  | some node =>
      rw [placed] at isObject
      cases document with
      | object members => exact ⟨node, members, rfl, rfl⟩
      | _ => cases isObject

/-- The line that the root is entered with: a call of the root factory, on the literal unless the
root is an object. -/
def rootLine (config : EmitterConfig) (place : Context) : List Char :=
  let call := "export default ".toList ++ config.rootFactory.toList
  if place.shape = .object then call ++ ['(', ')']
  else call ++ '(' :: place.value.compactChars ++ [')']

/-- Entering the root writes its line and opens one closer.  What follows is looked into if the
root is an object. -/
theorem enter_root (emitter : Emitter) (root : place.isRoot = true) :
    emitter.enter place =
      (emitter.openIndented (rootLine emitter.config place) .root,
        if place.shape = .object then .continue else .stop) := by
  rw [enter, if_pos root, rootLine]
  cases place.shape with
  | object => rfl
  | scalar | array | opaqueValue => rfl

theorem rootLine_object (isObject : place.shape = .object) :
    '\n' :: rootLine EmitterConfig.standard place =
      "\nexport default ".toList ++ "pipeline()".toList := by
  rw [rootLine, if_pos isObject]
  simp [EmitterConfig.standard]

theorem rootLine_literal (notObject : place.shape ≠ .object) :
    '\n' :: rootLine EmitterConfig.standard place =
      "\nexport default ".toList ++ rootText (.opaqueValue place.value) := by
  rw [rootLine, if_neg notObject, rootText_opaqueValue]
  simp [EmitterConfig.standard]

/-- The walk writes the root of a layout, whatever its shape. -/
theorem visit_root {document : Json} (root : place.isRoot = true)
    (sameValue : place.value = document) (shape : place.shape = shapeOf place.node document)
    (succeeded :
      (visit schema observer place document (start EmitterConfig.standard)).2 = .ok ()) :
    ∃ (emitter : Emitter) (layout : Layout), layout.document = document ∧ IsRoot layout ∧
      emitter.Stands ("\nexport default ".toList ++ rootText layout) 1 [.root] ∧
      (visit schema observer place document (start EmitterConfig.standard)).1 =
        emitter.leave place := by
  have enters : observer.enter (start EmitterConfig.standard) place = _ :=
    enter_root (start EmitterConfig.standard) root
  have stands := start_stands (rootLine EmitterConfig.standard place)
  by_cases isObject : place.shape = .object
  · obtain ⟨node, members, placed, rfl⟩ := members_of_shape shape isObject
    rw [if_pos isObject] at enters
    rw [rootLine_object isObject] at stands
    rw [visit_object enters placed] at succeeded ⊢
    obtain ⟨visited, left⟩ := leaveNode_of_ok succeeded
    obtain ⟨layouts, same, written⟩ := visitMembers_stands stands visited
    rw [List.append_assoc, ← rootText_object] at written
    exact ⟨_, .object layouts, by rw [document, same], .chain layouts, written, left⟩
  · rw [if_neg isObject] at enters
    rw [rootLine_literal isObject, sameValue] at stands
    rw [visit_of_stop enters]
    exact ⟨_, .opaqueValue document, rfl, .literal document, stands, rfl⟩

/-- Generated source is an import and the source of one of the document's layouts. -/
theorem generate_text {document : Json} {source : String}
    (generated : generate document schema EmitterConfig.standard = .ok source) :
    ∃ (emitter : Emitter) (layout : Layout), emitter.config = EmitterConfig.standard ∧
      layout.document = document ∧ IsRoot layout ∧
      source.toList = emitter.header ++ "\nexport default ".toList ++ rootText layout ++
        newLine 1 ++ ".build();\n".toList := by
  unfold generate emit walk at generated
  cases found : context schema [] (some schema.root) document none none with
  | error cycle =>
      rw [found] at generated
      cases generated
  | ok place =>
      obtain ⟨samePath, _, sameValue, shape⟩ := context_spec found
      have root : place.isRoot = true := by simp [Context.isRoot, samePath]
      rw [found] at generated
      simp only at generated
      cases visited : visit schema observer place document (start EmitterConfig.standard) with
      | mk final result =>
          rw [visited] at generated
          cases result with
          | error cycle => cases generated
          | ok _ =>
              have succeeded : (visit schema observer place document
                  (start EmitterConfig.standard)).2 = .ok () := by rw [visited]
              obtain ⟨emitter, layout, same, isRoot, stands, left⟩ :=
                visit_root root sameValue shape succeeded
              rw [visited] at left
              cases generated
              refine ⟨emitter.leave place, layout, ?_, same, isRoot, ?_⟩
              · exact (leave_config emitter place).trans stands.config
              · simp only at left
                rw [left, text, String.toList_ofList, chars_of_left stands]
                simp only [List.append_assoc]

end Emitter

end Pipewright
