import Mathlib.Data.List.Forall2
import Pipewright.Proofs.Expression.Bodies

/-!
# Segments of tidy strings

Tidying a string rewrites the bodies of its expressions and nothing else: its segments are
those of the string, with the tokens of each body joined by single blanks.  Segments tell
where a string is cut, so two strings have one tidy form exactly when they agree in their
texts and in the tokens of their expressions, segment by segment.
-/

namespace Pipewright

namespace Segment

/-- A text as it is, or an expression with its tokens joined by single blanks. -/
def tidy : Segment → Segment
  | .text content => .text content
  | .expression body => .expression ([' '].intercalate (blankTokens body))

/-- The same text, or expressions with the same tokens. -/
inductive SameTokens : Segment → Segment → Prop where
  | text (content : List Char) : SameTokens (.text content) (.text content)
  | expression {body body' : List Char} :
      blankTokens body = blankTokens body' →
      SameTokens (.expression body) (.expression body')

theorem tidy_eq_iff {segment segment' : Segment} :
    segment.tidy = segment'.tidy ↔ SameTokens segment segment' := by
  constructor
  · intro same
    cases segment with
    | text content =>
        cases segment' with
        | text content' =>
            cases same
            exact .text content
        | expression => cases same
    | expression body =>
        cases segment' with
        | text => cases same
        | expression body' =>
            injection same with joined
            have areTokens : ∀ token ∈ blankTokens body, IsToken token :=
              fun _ => isToken_of_mem_blankTokens
            refine .expression ?_
            rw [← blankTokens_intercalate areTokens, joined,
              blankTokens_intercalate fun _ => isToken_of_mem_blankTokens]
  · intro same
    cases same with
    | text => rfl
    | expression tokens => rw [tidy, tidy, tokens]

end Segment

namespace Expression

theorem trimBlanks_tidyBody (body : List Char) :
    trimBlanks (tidyBody body) = [' '].intercalate (blankTokens body) := by
  have areTokens : ∀ token ∈ blankTokens body, IsToken token :=
    fun _ => isToken_of_mem_blankTokens
  unfold tidyBody
  cases tokens : blankTokens body with
  | nil => rfl
  | cons token others =>
      rw [tokens] at areTokens
      have blank : ∀ character ∈ [' '], isBlank character = true :=
        List.forall_mem_singleton.mpr rfl
      rw [← intercalate_append_separator [' '] (List.cons_ne_nil token others)]
      exact trimBlanks_surrounded blank blank (isTrimmed_intercalate areTokens)

namespace Decomposition

/-- Put a text in front. -/
def prependText (content : List Char) (decomposition : Decomposition) : Decomposition :=
  { decomposition with lead := content ++ decomposition.lead }

/-- The decomposition that some segments describe. -/
def ofSegments : List Segment → Decomposition
  | [] => ⟨[], []⟩
  | .text content :: rest => (ofSegments rest).prependText content
  | .expression body :: rest => (ofSegments rest).consHole body

theorem ofSegments_textSegment_append (content : List Char) (rest : List Segment) :
    ofSegments (textSegment content ++ rest) = (ofSegments rest).prependText content := by
  cases content with
  | nil => rfl
  | cons => rfl

/-- The segments of a string tell where it is cut, and its bodies up to the blanks around
them. -/
theorem ofSegments_segments (decomposition : Decomposition) :
    ofSegments decomposition.segments = decomposition.mapBodies trimBlanks := by
  obtain ⟨lead, holes⟩ := decomposition
  have behind : ofSegments (segments ⟨[], holes⟩) = mapBodies trimBlanks ⟨[], holes⟩ := by
    induction holes with
    | nil => rfl
    | cons hole holes inner =>
        have split : segments ⟨[], hole :: holes⟩ = .expression (trimBlanks hole.1) ::
            (textSegment hole.2 ++ segments ⟨[], holes⟩) := rfl
        rw [split, ofSegments, ofSegments_textSegment_append, inner]
        simp [prependText, consHole, mapBodies]
  have whole : segments ⟨lead, holes⟩ = textSegment lead ++ segments ⟨[], holes⟩ := rfl
  rw [whole, ofSegments_textSegment_append, behind]
  simp [prependText, mapBodies]

theorem map_tidy_textSegment (content : List Char) :
    (textSegment content).map Segment.tidy = textSegment content := by
  cases content with
  | nil => rfl
  | cons => rfl

theorem segments_mapBodies_tidyBody (decomposition : Decomposition) :
    (decomposition.mapBodies tidyBody).segments = decomposition.segments.map Segment.tidy := by
  have hole : ∀ body text : List Char,
      Segment.expression (trimBlanks (tidyBody body)) :: textSegment text =
        (Segment.expression (trimBlanks body) :: textSegment text).map Segment.tidy := by
    intro body text
    rw [List.map_cons, map_tidy_textSegment, trimBlanks_tidyBody, Segment.tidy,
      blankTokens_trimBlanks]
  simp only [segments, mapBodies, List.map_append, map_tidy_textSegment, List.flatMap_map,
    List.map_flatMap, hole]

/-- Tidy decompositions are told apart by their segments. -/
theorem mapBodies_tidyBody_eq_iff {left right : Decomposition} :
    left.mapBodies tidyBody = right.mapBodies tidyBody ↔
      left.segments.map Segment.tidy = right.segments.map Segment.tidy := by
  have rebuilt : ∀ decomposition : Decomposition,
      (ofSegments (decomposition.segments.map Segment.tidy)).mapBodies tidyBody =
        decomposition.mapBodies tidyBody := by
    intro decomposition
    rw [← segments_mapBodies_tidyBody, ofSegments_segments, mapBodies_mapBodies,
      mapBodies_mapBodies]
    refine mapBodies_congr (fun body => tidyBody_eq_iff.mpr ?_) decomposition
    rw [blankTokens_trimBlanks, blankTokens_tidyBody]
  constructor
  · intro same
    rw [← segments_mapBodies_tidyBody, same, segments_mapBodies_tidyBody]
  · intro same
    rw [← rebuilt, same, rebuilt]

end Decomposition

/-- Tidying joins the tokens of every expression by single blanks and leaves the texts
between them, a second time it changes nothing, and it makes two strings one exactly when
their segments agree one by one, the texts as they are and the expressions in their
tokens. -/
theorem tidying_keeps_segments (text other : List Char) :
    segments (tidyExpressions text) = (segments text).map Segment.tidy ∧
      tidyExpressions (tidyExpressions text) = tidyExpressions text ∧
      (tidyExpressions text = tidyExpressions other ↔
        List.Forall₂ Segment.SameTokens (segments text) (segments other)) := by
  refine ⟨?_, ?_, ?_⟩
  · rw [segments, decompose_tidyExpressions, Decomposition.segments_mapBodies_tidyBody,
      segments]
  · rw [tidyExpressions_eq text]
    exact tidyExpressions_assemble_mapBodies (fun _ => isBody_tidyBody) blankTokens_tidyBody text
  · rw [tidyExpressions_eq_iff, Decomposition.mapBodies_tidyBody_eq_iff,
      ← List.forall₂_eq_eq_eq, List.forall₂_map_left_iff, List.forall₂_map_right_iff]
    simp only [Segment.tidy_eq_iff, segments]

end Expression

end Pipewright
