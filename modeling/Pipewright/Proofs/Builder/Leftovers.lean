import Mathlib.Algebra.Order.BigOperators.Group.List
import Mathlib.Algebra.Order.Group.Nat
import Pipewright.Proofs.Builder.Stacking

/-!
# What a failed document leaves behind

A document that fails is not taken back: the lines that it has written stay, and what
follows is indented as far as it has come.  Nothing else of it can be noticed.  The lines
before it and the results of later documents are what they would be without it.
-/

namespace Pipewright

open Walk

theorem Walk.documentOutline_eq_error {document : Json} {schema : Schema}
    {cycle : CyclicReference} :
    documentOutline schema document = .error cycle ↔
      schema.effective document schema.root = .error cycle := by
  cases found : schema.effective document schema.root with
  | error other => simp [documentOutline, context, found, Except.map]
  | ok node => simp [documentOutline, context, found, Except.map]

/-! ## Lengths of sources -/

namespace Source

variable {base left rest : Source}

theorem body_onto (base work : Source) :
    (base.onto work).body =
      base.body ++ work.lines.flatMap fun line => '\n' :: base.indented line := by
  simp [body, onto, List.flatMap_map]

/-- Lines that were written before others make the source longer, also by what they indent
the others. -/
theorem body_onto_lt (fits : left.width = base.width) (written : left.lines ≠ []) :
    (base.onto rest).body.length < ((base.onto left).onto rest).body.length := by
  have further : (rest.lines.flatMap fun line => '\n' :: base.indented line).length ≤
      (rest.lines.flatMap fun line => '\n' :: (base.onto left).indented line).length := by
    rw [List.length_flatMap, List.length_flatMap]
    apply List.sum_le_sum
    intro line _
    rw [indented_onto fits]
    simp [indented]
  have between : 0 < (left.lines.flatMap fun line => '\n' :: base.indented line).length := by
    obtain ⟨line, lines, same⟩ := List.exists_cons_of_ne_nil written
    simp [same]
  rw [body_onto, body_onto, body_onto, List.length_append, List.length_append,
    List.length_append]
  omega

end Source

namespace Emitter

variable {base left rest emitter other : Emitter} {document : Json} {schema : Schema}
  {cycle : CyclicReference}

/-- More helpers make a longer import line. -/
theorem header_length_le (config : emitter.config = other.config)
    (usesNode : emitter.usesNode = true → other.usesNode = true)
    (usesExpression : emitter.usesExpression = true → other.usesExpression = true) :
    emitter.header.length ≤ other.header.length := by
  unfold header helpers
  rw [config]
  cases node : emitter.usesNode <;> cases expression : emitter.usesExpression <;>
    cases node' : other.usesNode <;> cases expression' : other.usesExpression <;>
    simp_all <;> omega

theorem chars_length (emitter : Emitter) :
    emitter.chars.length = emitter.header.length +
      if emitter.source.lines = [] then 0 else emitter.source.body.length + 1 := by
  unfold chars
  by_cases empty : emitter.source.lines = []
  · simp [Source.isEmpty, empty]
  · have body := congrArg List.length (Source.chars_eq empty)
    simp only [List.length_append, List.length_cons, List.length_nil] at body
    simp [Source.isEmpty, empty, body]

/-- Work that has written a line is never hidden by what is written behind it. -/
theorem text_ne_of_written (fits : left.source.width = base.source.width)
    (written : left.source.lines ≠ []) :
    ((base.onto left).onto rest).text ≠ (base.onto rest).text := by
  have header : (base.onto rest).header.length ≤ ((base.onto left).onto rest).header.length :=
    header_length_le rfl (by simp only [onto, Bool.or_eq_true]; tauto)
      (by simp only [onto, Bool.or_eq_true]; tauto)
  have body : (base.onto rest).source.body.length <
      ((base.onto left).onto rest).source.body.length := Source.body_onto_lt fits written
  have lines : ((base.onto left).onto rest).source.lines ≠ [] := by
    simp [onto, Source.onto, written]
  intro same
  have lengths := congrArg List.length (String.ofList_injective same)
  rw [chars_length, chars_length, if_neg lines] at lengths
  split at lengths <;> omega

/-! ## Documents in a row -/

/-- The emitter indents as its configuration says. -/
def Fits (emitter : Emitter) : Prop :=
  emitter.source.width = emitter.config.indentWidth

theorem atop_start (fits : base.Fits) : base.Atop 0 base (start base.config) where
  same := by simp [onto, start, Source.onto, Source.empty]
  config := rfl
  width := fits.symm
  level := rfl
  count := rfl
  started := nofun

/-- A document is emitted as by a fresh emitter.  If it fails, nothing is written only where
its root already fails. -/
theorem emit_spec (fits : base.Fits) (document : Json) (schema : Schema) :
    let fresh := (start base.config).emit document schema
    base.emit document schema = (base.onto fresh.1, fresh.2) ∧
      fresh.1.config = base.config ∧ fresh.1.source.width = base.source.width ∧
      ∀ cycle, fresh.2 = .error cycle →
        (fresh.1.source.lines = [] ↔ schema.effective document schema.root = .error cycle) := by
  have alike := atop_start fits
  have walks := walk_mirrored document schema (mirrors base) alike
  unfold emit
  cases found : documentOutline schema document with
  | error cycle =>
      rw [found] at walks
      obtain ⟨emitted, fresh⟩ := walks
      rw [emitted, fresh]
      refine ⟨Prod.ext alike.same rfl, rfl, fits.symm, ?_⟩
      intro cycle' failed
      cases failed
      exact ⟨fun _ => documentOutline_eq_error.mp found, fun _ => rfl⟩
  | ok outline =>
      rw [found] at walks
      have resolves : ∀ cycle, schema.effective document schema.root ≠ .error cycle := by
        intro cycle fails
        rw [documentOutline_eq_error.mpr fails] at found
        cases found
      revert walks
      generalize walk document schema observer base = emitted
      generalize walk document schema observer (start base.config) = fresh
      intro walks
      cases walks with
      | succeeds atop => exact ⟨Prod.ext atop.same rfl, atop.config, atop.width, nofun⟩
      | fails cycle enough atop =>
          refine ⟨Prod.ext atop.same rfl, atop.config, atop.width, ?_⟩
          intro cycle' _
          have written := atop.started enough
          exact ⟨fun none => absurd none written, fun fails => absurd fails (resolves cycle')⟩

theorem Fits.onto (fits : base.Fits) (work : Emitter) : (base.onto work).Fits :=
  fits

theorem onto_assoc (fits : left.source.width = base.source.width) :
    (base.onto left).onto rest = base.onto (left.onto rest) := by
  simp only [onto, Source.onto_assoc fits, List.append_assoc, Bool.or_assoc]

/-- Write documents one after another, and go on behind those that fail. -/
def emitAll (emitter : Emitter) (works : List (Json × Schema)) : Emitter :=
  works.foldl (fun emitter work => (emitter.emit work.1 work.2).1) emitter

theorem emitAll_cons (emitter : Emitter) (work : Json × Schema) (works : List (Json × Schema)) :
    emitter.emitAll (work :: works) = (emitter.emit work.1 work.2).1.emitAll works :=
  rfl

/-- Documents are emitted one after another as by a fresh emitter. -/
theorem emitAll_eq (fits : base.Fits) (works : List (Json × Schema)) :
    base.emitAll works = base.onto ((start base.config).emitAll works) := by
  -- the first document is put behind the base, and the others behind both
  induction works generalizing base with
  | nil => exact (atop_start fits).same
  | cons work works inner =>
      obtain ⟨emitted, config, width, _⟩ := emit_spec fits work.1 work.2
      generalize opens : (start base.config).emit work.1 work.2 = fresh
        at emitted config width
      have fitsFresh : fresh.1.Fits := by rw [Fits, width, config, fits]
      have others := inner fitsFresh
      rw [config] at others
      rw [emitAll_cons, emitAll_cons, emitted, opens, others, inner (fits.onto fresh.1),
        ← onto_assoc width]
      rfl

/-- What is written behind a document, be it that it fails. -/
theorem emitAll_behind (fits : base.Fits) (document : Json) (schema : Schema)
    (later : List (Json × Schema)) :
    (base.emit document schema).1.emitAll later =
      (base.onto ((start base.config).emit document schema).1).onto
        ((start base.config).emitAll later) := by
  obtain ⟨emitted, _⟩ := emit_spec fits document schema
  rw [emitted]
  exact emitAll_eq (fits.onto _) later

/-- Whether a document fails does not depend on what is written before it. -/
theorem emit_onto_snd (fits : base.Fits) (work : Emitter) (document : Json) (schema : Schema) :
    ((base.onto work).emit document schema).2 = ((start base.config).emit document schema).2 := by
  obtain ⟨emitted, _⟩ := emit_spec (fits.onto work) document schema
  rw [emitted]
  rfl

/-- A document that fails is seen in the text exactly if it has written a line. -/
theorem text_behind_eq_iff (fits : base.Fits)
    (failed : ((start base.config).emit document schema).2 = .error cycle) (rest : Emitter) :
    ((base.onto ((start base.config).emit document schema).1).onto rest).text =
        (base.onto rest).text ↔
      schema.effective document schema.root = .error cycle := by
  obtain ⟨_, _, width, written⟩ := emit_spec fits document schema
  constructor
  · intro same
    apply (written cycle failed).mp
    by_contra lines
    exact text_ne_of_written width lines same
  · intro root
    have untouched : ((start base.config).emit document schema).1 = start base.config := by
      rw [emit, walk_eq_run, documentOutline_eq_error.mpr root]
    rw [untouched, ← (atop_start fits).same]

theorem fits_emitAll (config : EmitterConfig) (works : List (Json × Schema)) :
    ((start config).emitAll works).Fits := by
  have fits : (start config).Fits := rfl
  rw [emitAll_eq fits]
  exact fits

theorem config_emitAll (config : EmitterConfig) (works : List (Json × Schema)) :
    ((start config).emitAll works).config = config := by
  have fits : (start config).Fits := rfl
  rw [emitAll_eq fits]
  rfl

end Emitter

open Emitter

/-- A document that fails leaves its lines behind, as far as it has come: the lines before it
stay, and those of later documents are indented by the levels that it has not closed.  Its
helpers are named with the others.  Later documents succeed and fail as they do without it.
The text stays what it is without the document, at any time, exactly if the document already
fails at its root. -/
theorem failed_document_stays {config : EmitterConfig} {earlier : List (Json × Schema)}
    {document : Json} {schema : Schema} {cycle : CyclicReference}
    (failed : (((start config).emitAll earlier).emit document schema).2 = .error cycle)
    (later : List (Json × Schema)) :
    let base := (start config).emitAll earlier
    let left := ((start config).emit document schema).1
    let rest := (start config).emitAll later
    let without := base.emitAll later
    let behind := (base.emit document schema).1.emitAll later
    without.source.lines = base.source.lines ++ rest.source.lines.map base.source.indented ∧
      behind.source.lines = base.source.lines ++ left.source.lines.map base.source.indented ++
        rest.source.lines.map (base.source.indented ∘ left.source.indented) ∧
      behind.config = without.config ∧
      behind.usesNode = (without.usesNode || left.usesNode) ∧
      behind.usesExpression = (without.usesExpression || left.usesExpression) ∧
      (∀ next nextSchema, (behind.emit next nextSchema).2 = (without.emit next nextSchema).2) ∧
      (behind.text = without.text ↔ schema.effective document schema.root = .error cycle) := by
  intro base left rest without behind
  have fits : base.Fits := fits_emitAll config earlier
  obtain ⟨emitted, _, width, _⟩ := emit_spec fits document schema
  have fails : ((start base.config).emit document schema).2 = .error cycle := by
    rw [emitted] at failed
    exact failed
  have whole := emitAll_eq fits later
  have onward := emitAll_behind fits document schema later
  have texts := text_behind_eq_iff fits fails rest
  have names : base.config = config := config_emitAll config earlier
  rw [names] at width whole onward texts
  change without = base.onto rest at whole
  change behind = (base.onto left).onto rest at onward
  have indents : (base.onto left).source.indented =
      base.source.indented ∘ left.source.indented :=
    funext (Source.indented_onto width)
  rw [onward, whole, ← indents]
  refine ⟨rfl, rfl, rfl, Bool.or_right_comm _ _ _, Bool.or_right_comm _ _ _, ?_, texts⟩
  intro next nextSchema
  rw [emit_onto_snd (fits.onto left), emit_onto_snd fits]
  rfl

/-- Triggers that cannot be resolved, between two workflows. -/
theorem failed_document_stays_between_workflows :
    let base := (start EmitterConfig.standard).emitAll [(workflow, workflowSchema)]
    let left := ((start EmitterConfig.standard).emit loopedTriggers loopedTriggersSchema).1
    let rest := (start EmitterConfig.standard).emitAll [(workflow, workflowSchema)]
    let failing := base.emit loopedTriggers loopedTriggersSchema
    let behind := failing.1.emitAll [(workflow, workflowSchema)]
    failing.2 = .error ⟨["#/definitions/loop", "#/definitions/loop"]⟩ ∧
      left.source.lines = ["export default pipeline()".toList, "  .on(node()".toList] ∧
      behind.source.lines = base.source.lines ++ left.source.lines.map base.source.indented ++
        rest.source.lines.map (base.source.indented ∘ left.source.indented) ∧
      behind.text ≠ (base.emitAll [(workflow, workflowSchema)]).text := by
  intro base left rest failing behind
  have failed : failing.2 = .error ⟨["#/definitions/loop", "#/definitions/loop"]⟩ := by
    unfold failing base emitAll
    simp only [List.foldl, emit, walk_eq_run, documentOutline_workflow,
      documentOutline_loopedTriggers]
    decide +kernel
  have lines : left.source.lines =
      ["export default pipeline()".toList, "  .on(node()".toList] := by
    unfold left
    rw [emit, walk_eq_run, documentOutline_loopedTriggers]
    decide +kernel
  obtain ⟨_, stays, _, _, _, _, unchanged⟩ :=
    failed_document_stays failed [(workflow, workflowSchema)]
  refine ⟨failed, lines, stays, ?_⟩
  rw [Ne, unchanged, ← documentOutline_eq_error, documentOutline_loopedTriggers]
  exact nofun

/-- The failure is seen in the text right behind it, and in the text behind a workflow that
is emitted after it. -/
theorem failed_document_seen :
    let fresh := start EmitterConfig.standard
    let failing := fresh.emit loopedTriggers loopedTriggersSchema
    failing.2 = .error ⟨["#/definitions/loop", "#/definitions/loop"]⟩ ∧
      failing.1.text ≠ fresh.text ∧
      (fresh.emit workflow workflowSchema).2 = .ok () ∧
      (failing.1.emit workflow workflowSchema).2 = .ok () ∧
      (failing.1.emit workflow workflowSchema).1.text ≠
        (fresh.emit workflow workflowSchema).1.text := by
  intro fresh failing
  unfold failing fresh
  simp only [emit, walk_eq_run, documentOutline_workflow, documentOutline_loopedTriggers]
  refine ⟨by decide +kernel, fun same => ?_, by decide +kernel, by decide +kernel,
    fun same => ?_⟩
  all_goals
    have chars := String.ofList_injective same
    revert chars
    decide +kernel

end Pipewright
