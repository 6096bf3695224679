import Mathlib.Logic.Relation
import Pipewright.Proofs.Builder.Imports

/-!
# Levels and closers

At every moment of a run the emitter is indented once for each open closer that goes one
level further out again, so that leaving a place never asks for a level that is not there.
A document that succeeds takes all its closers with it.  So the source of documents that all
succeed is their sources one behind the other, under one import line for all of them.
-/

namespace Pipewright

open Walk

/-! ## States of a walk -/

namespace Observer

variable {State : Type} {observer : Observer State}

/-- The observer, which also keeps the states that its reactions lead to. -/
def traced (observer : Observer State) : Observer (State × List State) where
  enter trace place :=
    let answered := observer.enter trace.1 place
    ((answered.1, trace.2 ++ [answered.1]), answered.2)
  leave trace place :=
    let left := observer.leave trace.1 place
    (left, trace.2 ++ [left])
  property trace place :=
    let answered := observer.property trace.1 place
    ((answered.1, trace.2 ++ [answered.1]), answered.2)
  item trace place position :=
    let announced := observer.item trace.1 place position
    (announced, trace.2 ++ [announced])

/-- Keeping states does not change what the observer does. -/
theorem traced_simulates (observer : Observer State) :
    observer.traced.Simulates observer fun trace state => trace.1 = state where
  enter _ same := by cases same; exact ⟨rfl, rfl⟩
  leave _ same := by cases same; rfl
  property _ same := by cases same; exact ⟨rfl, rfl⟩
  item _ _ same := by cases same; rfl

/-- A trace that ends in the present state, and of which all states are of a kind. -/
def IsTrace (kind : State → Prop) (trace : State × List State) : Prop :=
  trace.2.getLast? = some trace.1 ∧ ∀ state ∈ trace.2, kind state

theorem IsTrace.present {kind : State → Prop} {trace : State × List State}
    (isTrace : IsTrace kind trace) : kind trace.1 :=
  isTrace.2 _ (List.mem_of_getLast? isTrace.1)

theorem IsTrace.append {kind : State → Prop} {trace : State × List State} {state : State}
    (isTrace : IsTrace kind trace) (isKind : kind state) :
    IsTrace kind (state, trace.2 ++ [state]) := by
  refine ⟨List.getLast?_concat, ?_⟩
  intro other among
  rcases List.mem_append.mp among with earlier | last
  · exact isTrace.2 other earlier
  · rw [List.mem_singleton.mp last]
    exact isKind

/-- What every reaction keeps, all states of a trace have. -/
theorem traced_advances {kind : State → Prop}
    (keeps : observer.Advances fun first second => kind first → kind second) :
    observer.traced.Advances fun first second => IsTrace kind first → IsTrace kind second where
  refl _ := id
  trans first second := second ∘ first
  enter _ place trace := trace.append (keeps.enter _ place trace.present)
  leave _ place trace := trace.append (keeps.leave _ place trace.present)
  property _ place trace := trace.append (keeps.property _ place trace.present)
  item _ place position trace := trace.append (keeps.item _ place position trace.present)

end Observer

theorem Walk.walk_advances {State : Type} {observer : Observer State}
    {earlier : State → State → Prop} (advances : observer.Advances earlier) (document : Json)
    (schema : Schema) (state : State) : earlier state (walk document schema observer state).1 := by
  rw [walk_eq_run]
  cases documentOutline schema document with
  | error cycle => exact advances.refl state
  | ok outline => exact outline.run_advances advances state

theorem Source.chars_of_started {source : Source} (written : source.lines ≠ []) :
    source.chars = source.lines.flatMap fun line => line ++ ['\n'] := by
  unfold chars
  cases lines : source.lines with
  | nil => exact absurd lines written
  | cons line rest => rfl

namespace Emitter

variable {emitter next base : Emitter} {document : Json} {schema : Schema}

/-! ## What reactions do -/

/-- One thing that a reaction of the emitter does. -/
inductive Move : Emitter → Emitter → Prop where
  | line (emitter : Emitter) (line : List Char) : Move emitter (emitter.writeLine line)
  | literal (emitter : Emitter) (value : Json) : Move emitter (emitter.noteLiteral value)
  | node (emitter : Emitter) : Move emitter { emitter with usesNode := true }
  | open_ (emitter : Emitter) {closer : Closer} (stays : closer.indents = false) :
      Move emitter (emitter.open_ closer)
  | openIndented (emitter : Emitter) (line : List Char) {closer : Closer}
      (indents : closer.indents = true) : Move emitter (emitter.openIndented line closer)
  | part {emitter : Emitter} {before after : List Char} {parts : List (List Char)}
      {closers : List Closer}
      (opened : emitter.closers = .inlineArray before after parts :: closers) (part : List Char) :
      Move emitter
        { emitter with closers := .inlineArray before after (parts ++ [part]) :: closers }
  | leave (emitter : Emitter) (place : Context) : Move emitter (emitter.leave place)

/-- What reactions of the emitter do, one after another. -/
def Moves : Emitter → Emitter → Prop :=
  Relation.ReflTransGen Move

namespace Moves

theorem refl (emitter : Emitter) : Moves emitter emitter :=
  Relation.ReflTransGen.refl

theorem andThen (moves : Moves base emitter) (move : Move emitter next) : Moves base next :=
  Relation.ReflTransGen.tail moves move

theorem openNode (emitter : Emitter) (line : List Char) {closer : Closer}
    (indents : closer.indents = true) : Moves emitter (emitter.openNode line closer) :=
  ((refl emitter).andThen (.openIndented emitter line indents)).andThen (.node _)

theorem enter (emitter : Emitter) (place : Context) : Moves emitter (emitter.enter place).1 := by
  cases root : place.isRoot with
  | true =>
      rw [enter_root emitter root]
      exact (refl emitter).andThen (.openIndented emitter _ rfl)
  | false =>
      rw [Emitter.enter, root, if_neg Bool.false_ne_true]
      split <;> exact refl emitter

theorem property (emitter : Emitter) (place : Context) :
    Moves emitter (emitter.property place).1 := by
  have written : ∀ line, Moves emitter (emitter.writeLine line) := fun line =>
    (refl emitter).andThen (.line emitter line)
  unfold Emitter.property
  cases place.propertyName? with
  | none => exact refl emitter
  | some key =>
      cases place.shape with
      | opaqueValue => exact written _
      | scalar | object | array =>
          cases place.value with
          | object members => exact openNode emitter _ rfl
          | array items =>
              dsimp only
              cases items.all isInline with
              | true => exact (refl emitter).andThen (.open_ emitter rfl)
              | false => exact (refl emitter).andThen (.openIndented emitter _ rfl)
          | null | boolean _ | number _ | string _ => exact (written _).andThen (.literal _ _)

theorem lineItem (emitter : Emitter) (place : Context) :
    Moves emitter (emitter.lineItem place) := by
  have written : ∀ line, Moves emitter ((emitter.writeLine line).open_ .emitted) := fun line =>
    ((refl emitter).andThen (.line emitter line)).andThen (.open_ _ rfl)
  unfold Emitter.lineItem
  cases place.shape with
  | opaqueValue => exact written _
  | scalar | object | array =>
      cases place.value with
      | object members => exact openNode emitter _ rfl
      | array items =>
          dsimp only
          cases items.all isInline with
          | true => exact (refl emitter).andThen (.open_ emitter rfl)
          | false => exact (refl emitter).andThen (.openIndented emitter _ rfl)
      | null | boolean _ | number _ | string _ => exact (written _).andThen (.literal _ _)

theorem inlineItem {before after : List Char} {parts : List (List Char)}
    {closers : List Closer} (opened : emitter.closers = .inlineArray before after parts :: closers)
    (place : Context) : Moves emitter (emitter.inlineItem place before after parts closers) := by
  have put : ∀ part, Moves emitter
      { emitter with
        closers := .emitted :: .inlineArray before after (parts ++ [part]) :: closers } :=
    fun part => ((refl emitter).andThen (.part opened part)).andThen (.open_ _ rfl)
  unfold Emitter.inlineItem
  split
  · exact put _
  · exact (put _).andThen (.literal _ _)

theorem item (emitter : Emitter) (place : Context) (position : Nat) :
    Moves emitter (emitter.item place position) := by
  unfold Emitter.item
  split
  · next opened => exact inlineItem opened place
  · exact lineItem emitter place

/-- What every move keeps, all of them keep. -/
theorem keeps {kind : Emitter → Prop} (keep : ∀ {emitter next}, Move emitter next →
    kind emitter → kind next) (moves : Moves emitter next) (isKind : kind emitter) :
    kind next := by
  induction moves with
  | refl => exact isKind
  | tail _ move inner => exact keep move inner

end Moves

theorem observer_moves : observer.Advances Moves where
  refl := .refl
  trans := Relation.ReflTransGen.trans
  enter := .enter
  leave emitter place := (Moves.refl emitter).andThen (.leave emitter place)
  property := .property
  item := .item

/-! ## Balance -/

/-- The emitter is indented once for each open closer that goes one level further out. -/
def Balanced (emitter : Emitter) : Prop :=
  emitter.source.level = emitter.closers.countP Closer.indents

theorem leave_of_nothing (nothing : emitter.closers = []) (place : Context) :
    emitter.leave place = emitter := by
  rw [leave, nothing]

/-- Leaving a place goes out as far as its closer has gone in. -/
theorem Balanced.leave_level (balanced : emitter.Balanced) {closer : Closer}
    {closers : List Closer} (opened : emitter.closers = closer :: closers) (place : Context) :
    (emitter.leave place).source.level + (if closer.indents then 1 else 0) =
      emitter.source.level := by
  have level : emitter.source.level =
      closers.countP Closer.indents + if closer.indents then 1 else 0 := by
    rw [balanced, opened, List.countP_cons]
  rw [leave_of_opened opened]
  change (closer.write emitter.source).level + _ = _
  rw [closer.write_level, level, Nat.add_sub_cancel]

theorem Move.balanced (move : Move emitter next) (balanced : emitter.Balanced) :
    next.Balanced := by
  cases move with
  | line | literal | node => exact balanced
  | open_ stays =>
      rw [Balanced, Emitter.open_, List.countP_cons_of_neg (by simp [stays])]
      exact balanced
  | openIndented line indents =>
      rw [Balanced, Emitter.openIndented, List.countP_cons_of_pos indents]
      exact congrArg (· + 1) balanced
  | part opened part =>
      rw [Balanced, opened] at balanced
      exact balanced
  | leave place =>
      cases opened : emitter.closers with
      | nil =>
          rw [leave_of_nothing opened]
          exact balanced
      | cons closer closers =>
          have level := balanced.leave_level opened place
          rw [balanced, opened, List.countP_cons] at level
          have rest : (emitter.leave place).closers = closers := by
            rw [leave_of_opened opened]
          rw [Balanced, rest]
          exact Nat.add_right_cancel level

theorem Move.started (move : Move emitter next) (started : emitter.source.lines ≠ []) :
    next.source.lines ≠ [] := by
  cases move with
  | line line => exact Source.pushLine_lines_ne _ line
  | literal | node | open_ | part => exact started
  | openIndented line => exact Source.pushLine_lines_ne _ line
  | leave place =>
      cases opened : emitter.closers with
      | nil =>
          rw [leave_of_nothing opened]
          exact started
      | cons closer closers =>
          rw [leave_of_opened opened]
          exact (closer.write_keeps started).1

/-! ## Runs over documents -/

/-- Write documents one after another, and keep the emitters that the reactions lead to. -/
def trace (start : Emitter × List Emitter) (works : List (Json × Schema)) :
    Emitter × List Emitter :=
  works.foldl (fun trace work => (walk work.1 work.2 observer.traced trace).1) start

/-- The emitters before, between and behind the reactions to documents. -/
def moments (emitter : Emitter) (works : List (Json × Schema)) : List Emitter :=
  (trace (emitter, [emitter]) works).2

theorem trace_fst (start : Emitter × List Emitter) (works : List (Json × Schema)) :
    (trace start works).1 = start.1.emitAll works := by
  induction works generalizing start with
  | nil => rfl
  | cons work works inner =>
      obtain ⟨same, _⟩ : Agree (fun trace emitter => trace.1 = emitter)
          (walk work.1 work.2 observer.traced start) (walk work.1 work.2 observer start.1) :=
        walk_agree (Observer.traced_simulates observer) rfl
      rw [emitAll_cons, emit, ← same]
      exact inner _

theorem trace_balanced {start : Emitter × List Emitter}
    (isTrace : Observer.IsTrace Balanced start) (works : List (Json × Schema)) :
    Observer.IsTrace Balanced (trace start works) := by
  have keeps : observer.Advances fun first second => first.Balanced → second.Balanced := by
    have moves := observer_moves
    exact ⟨fun _ => id, fun first second => second ∘ first,
      fun emitter place => (moves.enter emitter place).keeps Move.balanced,
      fun emitter place => (moves.leave emitter place).keeps Move.balanced,
      fun emitter place => (moves.property emitter place).keeps Move.balanced,
      fun emitter place position => (moves.item emitter place position).keeps Move.balanced⟩
  induction works generalizing start with
  | nil => exact isTrace
  | cons work works inner =>
      exact inner (walk_advances (Observer.traced_advances keeps) work.1 work.2 start isTrace)

theorem moments_balanced (config : EmitterConfig) (works : List (Json × Schema)) :
    Observer.IsTrace Balanced ((start config).emitAll works, (start config).moments works) := by
  rw [← trace_fst (start config, [start config])]
  refine trace_balanced ⟨rfl, ?_⟩ works
  intro emitter among
  rw [List.mem_singleton.mp among]
  rfl

/-- A document that succeeds has been written on top of what was there. -/
theorem emit_atop (fits : base.Fits) (succeeded : (base.emit document schema).2 = .ok ()) :
    base.Atop 0 (base.emit document schema).1
      ((start base.config).emit document schema).1 := by
  have walks := walk_mirrored document schema (mirrors base) (atop_start fits)
  unfold emit at succeeded ⊢
  cases found : documentOutline schema document with
  | error cycle =>
      rw [walk_eq_run, found] at succeeded
      cases succeeded
  | ok outline =>
      rw [found] at walks
      generalize walk document schema observer base = emitted at succeeded walks ⊢
      generalize walk document schema observer (start base.config) = fresh at walks ⊢
      cases walks with
      | succeeds atop => exact atop
      | fails cycle enough atop => cases succeeded

/-- A document that succeeds leaves the closers and the level as they were. -/
theorem emit_restores (fits : base.Fits) (succeeded : (base.emit document schema).2 = .ok ()) :
    (base.emit document schema).1.closers = base.closers ∧
      (base.emit document schema).1.source.level = base.source.level := by
  have atop := emit_atop fits succeeded
  have nothing := List.length_eq_zero_iff.mp atop.count
  have level := atop.level
  rw [nothing, List.countP_nil] at level
  rw [atop.same]
  constructor
  · rw [onto, nothing, List.nil_append]
  · rw [onto, Source.onto, level, Nat.add_zero]

/-- The emitter that has written one document only. -/
def alone (config : EmitterConfig) (work : Json × Schema) : Emitter :=
  ((start config).emit work.1 work.2).1

variable {config : EmitterConfig} {work : Json × Schema} {works : List (Json × Schema)}

/-- The document can be emitted. -/
def Emits (config : EmitterConfig) (work : Json × Schema) : Prop :=
  ((start config).emit work.1 work.2).2 = .ok ()

theorem generate_of_emits (emits : Emits config work) :
    generate work.1 work.2 config = .ok (alone config work).text := by
  unfold Emits at emits
  unfold generate alone
  generalize (start config).emit work.1 work.2 = outcome at emits ⊢
  obtain ⟨final, result⟩ := outcome
  cases emits
  rfl

theorem alone_started (emits : Emits config work) : (alone config work).source.lines ≠ [] := by
  unfold Emits emit at emits
  unfold alone emit
  rw [walk_eq_run] at emits ⊢
  cases found : documentOutline work.2 work.1 with
  | error cycle =>
      rw [found] at emits
      cases emits
  | ok outline =>
      obtain ⟨place, root, rfl⟩ := documentOutline_eq found
      have isRoot : place.isRoot = true := by simp [Context.isRoot, context_path root]
      have entered : ((start config).enter place).1.source.lines ≠ [] := by
        unfold enter
        rw [isRoot]
        cases place.shape <;> exact Source.pushLine_lines_ne _ _
      have below := descend_advances observer_moves ((start config).enter place)
        ((branches work.2 place work.1).run_advances observer_moves)
      have behind : Moves ((start config).enter place).1
          ((outline work.2 place work.1).run observer (start config)).1 :=
        below.trans (leave_advances observer_moves _ place)
      exact behind.keeps Move.started entered

theorem onto_lines (closed : base.source.level = 0) (work : Emitter) :
    (base.onto work).source.lines = base.source.lines ++ work.source.lines := by
  have flush : base.source.indented = id := by
    funext line
    simp [Source.indented, closed]
  rw [onto, Source.onto, flush, List.map_id]

/-- Documents that all succeed: their lines one behind the other, and all their helpers. -/
theorem emitAll_joins (emits : ∀ work ∈ works, Emits config work) :
    ((start config).emitAll works).source.lines =
        works.flatMap (fun work => (alone config work).source.lines) ∧
      ((start config).emitAll works).usesNode =
        works.any (fun work => (alone config work).usesNode) ∧
      ((start config).emitAll works).usesExpression =
        works.any (fun work => (alone config work).usesExpression) := by
  induction works with
  | nil => exact ⟨rfl, rfl, rfl⟩
  | cons work works inner =>
      obtain ⟨lines, node, expression⟩ :=
        inner fun work among => emits work (List.mem_cons_of_mem _ among)
      have fits : (start config).Fits := rfl
      have closed : (alone config work).source.level = 0 :=
        (emit_restores fits (emits work List.mem_cons_self)).2
      have names : (alone config work).config = config := config_emitAll config [work]
      have joined : (start config).emitAll (work :: works) =
          (alone config work).onto ((start config).emitAll works) := by
        have behind := emitAll_eq (fits_emitAll config [work]) works
        rw [config_emitAll config [work]] at behind
        exact behind
      rw [joined]
      refine ⟨?_, ?_, ?_⟩
      · rw [onto_lines closed, lines, List.flatMap_cons]
      · rw [onto, node, List.any_cons]
      · rw [onto, expression, List.any_cons]

theorem text_of_started (written : emitter.source.lines ≠ []) :
    emitter.text.toList = importLine emitter.config emitter.usesNode emitter.usesExpression ++
      '\n' :: emitter.source.chars := by
  have nonempty : emitter.source.isEmpty = false := by simpa [Source.isEmpty] using written
  rw [text, String.toList_ofList, chars, nonempty, if_neg Bool.false_ne_true, header_eq_importLine]

/-- Whether a document can be emitted does not depend on those before it. -/
theorem emit_behind_snd (earlier : List (Json × Schema)) (work : Json × Schema) :
    (((start config).emitAll earlier).emit work.1 work.2).2 =
      ((start config).emit work.1 work.2).2 := by
  obtain ⟨emitted, _⟩ := emit_spec (fits_emitAll config earlier) work.1 work.2
  rw [emitted, config_emitAll]

theorem text_of_joined (some : works ≠ []) (emits : ∀ work ∈ works, Emits config work) :
    ((start config).emitAll works).text.toList =
      importLine config (works.any fun work => (alone config work).usesNode)
        (works.any fun work => (alone config work).usesExpression) ++
        '\n' :: works.flatMap fun work => (alone config work).source.chars := by
  obtain ⟨lines, node, expression⟩ := emitAll_joins emits
  have written : ((start config).emitAll works).source.lines ≠ [] := by
    obtain ⟨work, others, rfl⟩ := List.exists_cons_of_ne_nil some
    rw [lines, List.flatMap_cons]
    exact List.append_ne_nil_of_left_ne_nil (alone_started (emits work List.mem_cons_self)) _
  rw [text_of_started written, config_emitAll, node, expression,
    Source.chars_of_started written, lines, List.flatMap_assoc]
  congr 2
  exact List.flatMap_congr fun work among =>
    (Source.chars_of_started (alone_started (emits work among))).symm

end Emitter

open Emitter

/-- At every moment of a run over documents, be it that some of them fail, the emitter is
indented once for each open closer that goes one level further out, and leaving a place goes
out as far as its closer says.  A document that succeeds leaves the closers and the level as
they were.  So the source of one or more documents that all succeed is the sources that are
generated for them, one behind the other, under an import line that names a helper exactly if
one of theirs does. -/
theorem emitter_balances (config : EmitterConfig) :
    (∀ works, ((start config).moments works).getLast? = some ((start config).emitAll works) ∧
      ∀ moment ∈ (start config).moments works,
        moment.source.level = moment.closers.countP Closer.indents ∧
        ∀ closer closers place, moment.closers = closer :: closers →
          (moment.leave place).source.level + (if closer.indents then 1 else 0) =
            moment.source.level) ∧
    (∀ earlier document schema,
      let base := (start config).emitAll earlier
      let emitted := base.emit document schema
      emitted.2 = .ok () →
        emitted.1.closers = base.closers ∧ emitted.1.source.level = base.source.level) ∧
    (∀ works, works ≠ [] →
      (∀ earlier work later, works = earlier ++ work :: later →
        (((start config).emitAll earlier).emit work.1 work.2).2 = .ok ()) →
      (∀ work ∈ works, generate work.1 work.2 config = .ok (alone config work).text ∧
        (alone config work).text.toList =
          importLine config (alone config work).usesNode (alone config work).usesExpression ++
            '\n' :: (alone config work).source.chars) ∧
      ((start config).emitAll works).text.toList =
        importLine config (works.any fun work => (alone config work).usesNode)
          (works.any fun work => (alone config work).usesExpression) ++
          '\n' :: works.flatMap fun work => (alone config work).source.chars) := by
  refine ⟨?moments, ?restored, ?joined⟩
  case moments =>
    intro works
    obtain ⟨last, balanced⟩ := moments_balanced config works
    refine ⟨last, fun moment among => ⟨balanced moment among, ?_⟩⟩
    intro closer closers place opened
    exact (balanced moment among).leave_level opened place
  case restored =>
    intro earlier document schema base emitted succeeded
    exact emit_restores (fits_emitAll config earlier) succeeded
  case joined =>
    intro works some succeed
    have emits : ∀ work ∈ works, Emits config work := by
      intro work among
      obtain ⟨earlier, later, split⟩ := List.append_of_mem among
      exact (emit_behind_snd earlier work).symm.trans (succeed earlier work later split)
    refine ⟨fun work among => ⟨generate_of_emits (emits work among), ?_⟩,
      text_of_joined some emits⟩
    have names : (alone config work).config = config := config_emitAll config [work]
    rw [text_of_started (alone_started (emits work among)), names]

/-- Two workflows, of which only the second one needs the expression helper. -/
theorem emitter_balances_over_workflows :
    let config := EmitterConfig.standard
    let works := [(workflow, workflowSchema), (releaseJob, workflowSchema)]
    (∀ earlier work later, works = earlier ++ work :: later →
      (((start config).emitAll earlier).emit work.1 work.2).2 = .ok ()) ∧
    (alone config (workflow, workflowSchema)).usesExpression = false ∧
    ((start config).emitAll works).text.toList =
      "import \x7b pipeline, node, expr \x7d from \"@pipeline-dsl/builder\";\n\n".toList ++
        ((alone config (workflow, workflowSchema)).source.chars ++
          (alone config (releaseJob, workflowSchema)).source.chars) := by
  intro config works
  have emits : Emits config (workflow, workflowSchema) ∧
      Emits config (releaseJob, workflowSchema) := by
    unfold Emits config
    simp only [emit, walk_eq_run, documentOutline_workflow, documentOutline_releaseJob]
    decide +kernel
  have succeed : ∀ earlier work later, works = earlier ++ work :: later →
      (((start config).emitAll earlier).emit work.1 work.2).2 = .ok () := by
    intro earlier work later split
    rw [emit_behind_snd]
    have among : work ∈ works := by simp [split]
    rcases List.mem_cons.mp among with rfl | among
    · exact emits.1
    · rw [List.mem_singleton.mp among]
      exact emits.2
  obtain ⟨_, _, joins⟩ := emitter_balances config
  obtain ⟨_, joined⟩ := joins works (List.cons_ne_nil _ _) succeed
  refine ⟨succeed, ?_, ?_⟩
  · unfold alone config
    simp only [emit, walk_eq_run, documentOutline_workflow]
    decide +kernel
  · rw [joined]
    have line : importLine config
        (works.any fun work => (alone config work).usesNode)
        (works.any fun work => (alone config work).usesExpression) =
        "import \x7b pipeline, node, expr \x7d from \"@pipeline-dsl/builder\";\n".toList := by
      unfold works alone config
      simp only [List.any_cons, List.any_nil, emit, walk_eq_run, documentOutline_workflow,
        documentOutline_releaseJob]
      decide +kernel
    rw [line]
    simp [works]

end Pipewright
