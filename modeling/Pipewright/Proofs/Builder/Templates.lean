import Pipewright.Proofs.Builder.Literals

/-!
# Reading strings back

A string with expressions is written as a call of the expression helper or as a
template literal.  Both are read back with the expressions spaced, wherever text,
expressions, backslashes, backquotes and dollar signs meet.
-/

namespace Pipewright

namespace Replay

open Json Expression

variable {reader : LiteralReader} {document : Json} {character : Char}

/-! ## Expressions -/

theorem expressionText_eq (body : List Char) :
    expressionText (String.ofList (trimBlanks body)) = openMark ++ spaceBody body ++ closeMark := by
  rw [expressionText, String.toList_ofList]
  simp [openMark, closeMark, spaceBody]

theorem expressionCall_quoted (readsBack : reader.ReadsBack document) (body rest : List Char) :
    expressionCall reader (quoteChars body ++ ')' :: rest) =
      some (expressionText (String.ofList body), rest) := by
  have close : eat? ")" (')' :: rest) = some rest := rfl
  unfold expressionCall stringLiteral
  simp only [literal_quoted readsBack, Option.bind_eq_bind, Option.bind_some, close]

theorem expressionCall_standard (body : List Char) :
    Emitter.expressionCall EmitterConfig.standard body =
      'e' :: 'x' :: 'p' :: 'r' :: '(' :: (quoteChars body ++ [')']) :=
  rfl

theorem reads_expression (readsBack : reader.ReadsBack document) (body : List Char) :
    Reads reader (Emitter.expressionCall EmitterConfig.standard (trimBlanks body))
      (.string (String.ofList (openMark ++ spaceBody body ++ closeMark))) := by
  rw [expressionCall_standard]
  refine ⟨⟨'e', _, rfl, by decide, by decide, by decide⟩, ?_⟩
  intro rest _
  have node : ∀ text, startsWith "node(" ('e' :: text) = false :=
    startsWith_of_ne rfl (by decide) (by decide)
  have call : ∀ text, eat? "expr(" ('e' :: 'x' :: 'p' :: 'r' :: '(' :: text) = some text :=
    fun _ => rfl
  simp only [List.cons_append]
  rw [value, node, call, List.append_assoc, List.singleton_append]
  simp only [Bool.false_eq_true, if_false, expressionCall_quoted readsBack,
    Option.bind_eq_bind, Option.bind_some, expressionText_eq]

/-! ## Template literals -/

/-- Any text but the characters that templates treat in their own way. -/
theorem template_plain {rest : List Char} (noBackslash : character ≠ '\\')
    (noBackquote : character ≠ '\x60')
    (noHole : character = '$' → ∀ more, rest ≠ '\x7b' :: more) :
    template reader (character :: rest) =
      (template reader rest).map fun (content, rest) => (character :: content, rest) := by
  rw [template.eq_def]
  split
  · next same => cases same
  · next same =>
      injection same with first _
      exact absurd first noBackquote
  · next same =>
      injection same with first second
      exact absurd second (noHole first _)
  · next same =>
      injection same with first _
      exact absurd first noBackslash
  · next same =>
      injection same with first _
      exact absurd first noBackslash
  · next same =>
      injection same with first second
      subst first second
      rw [Option.map_eq_bind]
      rfl

theorem template_escaped (escaped : Char) (rest : List Char) :
    template reader ('\\' :: escaped :: rest) =
      (template reader rest).map fun (content, rest) => (escaped :: content, rest) := by
  rw [template, Option.map_eq_bind]
  rfl

/-- Escaped text opens as the text does, or with a backslash. -/
theorem escapeTemplate_ne {opening : Char} (noBackslash : opening ≠ '\\')
    {content rest : List Char} (notInside : ∀ more, content ≠ opening :: more)
    (notBehind : ∀ more, rest ≠ opening :: more) :
    ∀ more, Emitter.escapeTemplate content ++ rest ≠ opening :: more := by
  intro more
  fun_cases Emitter.escapeTemplate content with
  | case1 => exact notBehind more
  | case2 => simp [noBackslash.symm]
  | case3 => simp [noBackslash.symm]
  | case4 => simp [noBackslash.symm]
  | case5 character others =>
      intro same
      injection same with first _
      exact notInside others (by rw [first])

/-- Text is read back from its escaped form, where no brace is behind it. -/
theorem template_escapeTemplate {content rest : List Char}
    (noBrace : ∀ more, rest ≠ '\x7b' :: more) :
    template reader (Emitter.escapeTemplate content ++ rest) =
      (template reader rest).map fun (text, rest) => (content ++ text, rest) := by
  fun_induction Emitter.escapeTemplate content with
  | case1 => simp
  | case2 others inner =>
      rw [List.cons_append, List.cons_append, template_escaped, inner, Option.map_map]
      rfl
  | case3 others inner =>
      rw [List.cons_append, List.cons_append, template_escaped, inner, Option.map_map]
      rfl
  | case4 others inner =>
      rw [List.cons_append, List.cons_append, List.cons_append, template_escaped,
        template_plain (by decide) (by decide) (by simp), inner, Option.map_map, Option.map_map]
      rfl
  | case5 character others noBackslash noBackquote noHole inner =>
      -- a dollar sign that stays as it is has no brace behind it, escaped or not
      have plain : character = '$' →
          ∀ more, Emitter.escapeTemplate others ++ rest ≠ '\x7b' :: more := by
        intro dollar
        exact escapeTemplate_ne (by decide) (fun more same => noHole more dollar same) noBrace
      rw [List.cons_append, template_plain noBackslash noBackquote plain, inner, Option.map_map]
      rfl

theorem template_expression (readsBack : reader.ReadsBack document) (body rest : List Char) :
    template reader
        (Emitter.templateSegment EmitterConfig.standard (.expression (trimBlanks body)) ++ rest) =
      (template reader rest).map fun (text, rest) =>
        (openMark ++ spaceBody body ++ closeMark ++ text, rest) := by
  have written : Emitter.templateSegment EmitterConfig.standard
      (.expression (trimBlanks body)) ++ rest =
        '$' :: '\x7b' :: 'e' :: 'x' :: 'p' :: 'r' :: '(' ::
          (quoteChars (trimBlanks body) ++ ')' :: '\x7d' :: rest) := by
    rw [Emitter.templateSegment, expressionCall_standard]
    simp
  have call : ∀ text, eat? "expr(" ('e' :: 'x' :: 'p' :: 'r' :: '(' :: text) = some text :=
    fun _ => rfl
  have brace : eat? "\x7d" ('\x7d' :: rest) = some rest := rfl
  have shorter : rest.length < ('e' :: 'x' :: 'p' :: 'r' :: '(' ::
      (quoteChars (trimBlanks body) ++ ')' :: '\x7d' :: rest)).length := by
    simp only [List.length_cons, List.length_append]
    omega
  rw [written, template, call]
  simp only [expressionCall_quoted readsBack, Option.bind_eq_bind, Option.bind_some, brace,
    advance?_of_lt shorter, expressionText_eq, Option.map_eq_bind]
  rfl

/-- The segments of a template behind its first text. -/
def holeSource (hole : List Char × List Char) : List Char :=
  Emitter.templateSegment EmitterConfig.standard (.expression (trimBlanks hole.1)) ++
    Emitter.escapeTemplate hole.2

theorem flatMap_textSegment (config : EmitterConfig) (content : List Char) :
    (Decomposition.textSegment content).flatMap (Emitter.templateSegment config) =
      Emitter.escapeTemplate content := by
  cases content with
  | nil => rfl
  | cons first rest => exact List.append_nil _

/-- A template is written text by text and expression by expression. -/
theorem flatMap_templateSegment (config : EmitterConfig) (parts : Decomposition) :
    parts.segments.flatMap (Emitter.templateSegment config) =
      Emitter.escapeTemplate parts.lead ++ parts.holes.flatMap fun hole =>
        Emitter.templateSegment config (.expression (trimBlanks hole.1)) ++
          Emitter.escapeTemplate hole.2 := by
  rw [Decomposition.segments, List.flatMap_append, flatMap_textSegment, List.flatMap_assoc]
  congr 2
  funext hole
  rw [List.flatMap_cons, flatMap_textSegment]

theorem flatMap_segments (parts : Decomposition) :
    parts.segments.flatMap (Emitter.templateSegment EmitterConfig.standard) =
      Emitter.escapeTemplate parts.lead ++ parts.holes.flatMap holeSource :=
  flatMap_templateSegment EmitterConfig.standard parts

/-- Neither an expression nor the closing backquote opens with a brace. -/
theorem holes_ne_brace (holes : List (List Char × List Char)) (rest : List Char) :
    ∀ more, holes.flatMap holeSource ++ '\x60' :: rest ≠ '\x7b' :: more := by
  cases holes with
  | nil => simp
  | cons hole holes => simp [holeSource, Emitter.templateSegment]

/-- A template literal is read back with its expressions spaced. -/
theorem template_holes (readsBack : reader.ReadsBack document)
    (holes : List (List Char × List Char)) (rest : List Char) :
    template reader (holes.flatMap holeSource ++ '\x60' :: rest) =
      some (holes.flatMap fun (body, text) =>
        openMark ++ spaceBody body ++ closeMark ++ text, rest) := by
  induction holes with
  | nil =>
      rw [List.flatMap_nil, List.nil_append, template]
      rfl
  | cons hole holes inner =>
      obtain ⟨body, text⟩ := hole
      rw [List.flatMap_cons, holeSource, List.append_assoc, List.append_assoc,
        template_expression readsBack, template_escapeTemplate (holes_ne_brace holes rest), inner]
      simp

theorem reads_template (readsBack : reader.ReadsBack document) (text : List Char) :
    Reads reader ('\x60' :: (segments text).flatMap
        (Emitter.templateSegment EmitterConfig.standard) ++ ['\x60'])
      (.string (String.ofList (Canonical.spaceExpressions text))) := by
  refine ⟨⟨'\x60', _, rfl, by decide, by decide, by decide⟩, ?_⟩
  intro rest _
  have node : ∀ text, startsWith "node(" ('\x60' :: text) = false :=
    startsWith_of_ne rfl (by decide) (by decide)
  have expression : ∀ text, eat? "expr(" ('\x60' :: text) = none :=
    eat?_of_ne rfl (by decide) (by decide)
  have quote : ∀ text, eat? "\x60" ('\x60' :: text) = some text := fun _ => rfl
  have read : template reader (Emitter.escapeTemplate (decompose text).lead ++
      ((decompose text).holes.flatMap holeSource ++ '\x60' :: rest)) =
        some (Canonical.spaceExpressions text, rest) := by
    rw [template_escapeTemplate (holes_ne_brace _ rest), template_holes readsBack]
    simp [Canonical.spaceExpressions, Decomposition.mapBodies, Decomposition.assemble,
      List.flatMap_map]
  rw [List.cons_append, List.cons_append, value, node, expression, quote, segments,
    flatMap_segments, List.append_assoc, List.append_assoc, List.singleton_append]
  simp only [Bool.false_eq_true, if_false, read, Option.bind_eq_bind, Option.bind_some]

/-! ## Scalars -/

theorem decompose_of_wholeExpression? {text body : List Char}
    (whole : wholeExpression? text = some body) :
    ∃ inside, decompose text = ⟨[], [(inside, [])]⟩ ∧ body = trimBlanks inside := by
  unfold wholeExpression? segments at whole
  generalize decompose text = parts at whole ⊢
  obtain ⟨lead, holes⟩ := parts
  unfold Decomposition.segments at whole
  cases lead with
  | cons => simp [Decomposition.textSegment] at whole
  | nil =>
      match holes with
      | [] => simp [Decomposition.textSegment] at whole
      | [(inside, [])] =>
          have same : trimBlanks inside = body := by
            simpa [Decomposition.textSegment] using whole
          exact ⟨inside, rfl, same.symm⟩
      | [(inside, _ :: _)] => simp [Decomposition.textSegment] at whole
      | _ :: _ :: _ => simp [Decomposition.textSegment] at whole

theorem reads_string (readsBack : reader.ReadsBack document) (text : List Char) :
    Reads reader (Emitter.stringLiteral EmitterConfig.standard text)
      (.string (String.ofList (Canonical.spaceExpressions text))) := by
  unfold Emitter.stringLiteral
  by_cases contains : containsExpression text = true
  · rw [contains]
    simp only [Bool.not_true, Bool.false_eq_true, if_false]
    cases whole : wholeExpression? text with
    | none => exact reads_template readsBack text
    | some body =>
        obtain ⟨inside, parts, rfl⟩ := decompose_of_wholeExpression? whole
        have spaced : Canonical.spaceExpressions text =
            openMark ++ spaceBody inside ++ closeMark := by
          rw [Canonical.spaceExpressions, parts]
          simp [Decomposition.mapBodies, Decomposition.assemble]
        rw [spaced]
        exact reads_expression readsBack inside
  · have noHoles : (decompose text).holes = [] := by
      simpa [containsExpression] using contains
    rw [Bool.not_eq_true] at contains
    rw [contains, Canonical.spaceExpressions_of_no_holes noHoles]
    exact reads_quoted readsBack text

theorem reads_scalar {value : Json} (readsBack : reader.ReadsBack value)
    (isScalar : value.isScalar = true) :
    Reads reader (Emitter.scalarLiteral EmitterConfig.standard value)
      (Layout.rebuiltScalar value) := by
  cases value with
  | string text => exact reads_string readsBack text.toList
  | array => cases isScalar
  | object => cases isScalar
  | _ => exact reads_bare readsBack rfl (by simp)

end Replay

end Pipewright
