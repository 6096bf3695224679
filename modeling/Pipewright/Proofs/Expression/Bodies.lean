import Pipewright.Proofs.Expression.Decomposition

/-!
# Rewriting the bodies of expressions

Tidying a body joins its tokens by single blanks, and spacing a body trims it and
puts one blank on each side.  Both give bodies again, so a rewritten string has its
expressions where the string has them.  Two strings have the same tidy form exactly
when they agree in their text and in the tokens of their expressions.
-/

namespace Pipewright

namespace Expression

/-- A body without the blanks around it and with one blank on each side. -/
def spaceBody (body : List Char) : List Char :=
  ' ' :: trimBlanks body ++ [' ']

namespace Decomposition

/-- Rewrite every body. -/
def mapBodies (rewrite : List Char → List Char) (decomposition : Decomposition) :
    Decomposition :=
  { decomposition with
    holes := decomposition.holes.map fun (body, after) => (rewrite body, after) }

theorem mapBodies_mapBodies (first second : List Char → List Char)
    (decomposition : Decomposition) :
    (decomposition.mapBodies first).mapBodies second =
      decomposition.mapBodies fun body => second (first body) := by
  simp [mapBodies, Function.comp_def]

theorem mapBodies_congr {first second : List Char → List Char}
    (same : ∀ body, first body = second body) (decomposition : Decomposition) :
    decomposition.mapBodies first = decomposition.mapBodies second := by
  rw [funext same]

end Decomposition

/-! ## Replacing bodies -/

theorem WellCut.mapBodies {rewrite : List Char → List Char}
    (keeps : ∀ body, IsBody body → IsBody (rewrite body))
    {lead : List Char} {holes : List (List Char × List Char)} (wellCut : WellCut lead holes) :
    WellCut lead (holes.map fun (body, after) => (rewrite body, after)) := by
  induction holes generalizing lead with
  | nil => exact wellCut
  | cons hole holes inner =>
      obtain ⟨plain, isBody, others⟩ := wellCut
      exact ⟨plain, keeps _ isBody, inner others⟩

/-- A body may be replaced by another one wherever it stands. -/
theorem WellCut.replace {lead body body' text : List Char}
    {front back : List (List Char × List Char)}
    (wellCut : WellCut lead (front ++ (body, text) :: back)) (isBody : IsBody body') :
    WellCut lead (front ++ (body', text) :: back) := by
  induction front generalizing lead with
  | nil =>
      obtain ⟨plain, _, others⟩ := wellCut
      exact ⟨plain, isBody, others⟩
  | cons hole front inner =>
      obtain ⟨plain, firstBody, others⟩ := wellCut
      exact ⟨plain, firstBody, inner others⟩

/-- The expressions of a rewritten string stand where those of the string stand. -/
theorem decompose_assemble_mapBodies {rewrite : List Char → List Char}
    (keeps : ∀ body, IsBody body → IsBody (rewrite body)) (text : List Char) :
    decompose ((decompose text).mapBodies rewrite).assemble =
      (decompose text).mapBodies rewrite :=
  decompose_assemble ((wellCut_decompose text).mapBodies keeps)

/-! ## Bodies from blanks and parts of bodies -/

private theorem notClosing_blank_left (character : Char) : NotClosing ' ' character :=
  fun both => absurd both.1 (by decide)

private theorem notClosing_blank_right (character : Char) : NotClosing character ' ' :=
  fun both => absurd both.2 (by decide)

theorem IsBody.chain {body : List Char} (isBody : IsBody body) :
    List.IsChain NotClosing body :=
  List.IsChain.left_of_append isBody

theorem isBody_cons_blank {body : List Char} (isBody : IsBody body) : IsBody (' ' :: body) :=
  List.IsChain.cons isBody fun _ _ => notClosing_blank_left _

/-- What ends in a blank is a body when no closing mark stands before the blank. -/
theorem isBody_append_blank {text rest : List Char} (chain : List.IsChain NotClosing text)
    (isBody : IsBody rest) : IsBody (text ++ ' ' :: rest) := by
  unfold IsBody
  rw [List.append_assoc, List.cons_append]
  apply List.IsChain.append chain (isBody_cons_blank isBody)
  intro last _ first head
  cases head
  exact notClosing_blank_right last

theorem isBody_nil : IsBody [] :=
  List.isChain_singleton _

/-! ## Tidy bodies -/

theorem isBody_tidyBody {body : List Char} (isBody : IsBody body) : IsBody (tidyBody body) := by
  have chains : ∀ token ∈ blankTokens body, List.IsChain NotClosing token :=
    fun token member => List.IsChain.infix isBody.chain (infix_of_mem_blankTokens member)
  apply isBody_cons_blank
  generalize blankTokens body = tokens at chains
  induction tokens with
  | nil => exact isBody_nil
  | cons token tokens inner =>
      rw [List.flatMap_cons, List.append_assoc, List.singleton_append]
      apply isBody_append_blank (chains token List.mem_cons_self)
      exact inner fun other member => chains other (List.mem_cons_of_mem _ member)

theorem blankTokens_tidyBody (body : List Char) :
    blankTokens (tidyBody body) = blankTokens body := by
  unfold tidyBody
  rw [blankTokens_cons_blank (by decide)]
  exact blankTokens_flatMap fun token member => isToken_of_mem_blankTokens member

theorem tidyBody_eq_iff {body body' : List Char} :
    tidyBody body = tidyBody body' ↔ blankTokens body = blankTokens body' := by
  constructor
  · intro same
    rw [← blankTokens_tidyBody body, same, blankTokens_tidyBody]
  · intro same
    unfold tidyBody
    rw [same]

theorem tidyBody_tidyBody (body : List Char) : tidyBody (tidyBody body) = tidyBody body :=
  tidyBody_eq_iff.mpr (blankTokens_tidyBody body)

/-! ## Spaced bodies -/

theorem isBody_spaceBody {body : List Char} (isBody : IsBody body) : IsBody (spaceBody body) :=
  have chain : List.IsChain NotClosing (trimBlanks body) :=
    List.IsChain.infix isBody.chain (infix_trimBlanks body)
  isBody_cons_blank (isBody_append_blank chain isBody_nil)

theorem blankTokens_spaceBody (body : List Char) :
    blankTokens (spaceBody body) = blankTokens body := by
  have trailing : ∀ character ∈ [' '], isBlank character = true := by
    intro character member
    rw [List.mem_singleton.mp member]
    decide
  rw [spaceBody, List.cons_append, blankTokens_cons_blank (by decide),
    blankTokens_append_blanks trailing, blankTokens_trimBlanks]

/-! ## Tidy strings -/

theorem tidyExpressions_eq (text : List Char) :
    tidyExpressions text = ((decompose text).mapBodies tidyBody).assemble :=
  rfl

theorem decompose_tidyExpressions (text : List Char) :
    decompose (tidyExpressions text) = (decompose text).mapBodies tidyBody :=
  decompose_assemble_mapBodies (fun _ => isBody_tidyBody) text

/-- Two strings have one tidy form exactly when their tidy decompositions agree. -/
theorem tidyExpressions_eq_iff {text text' : List Char} :
    tidyExpressions text = tidyExpressions text' ↔
      (decompose text).mapBodies tidyBody = (decompose text').mapBodies tidyBody := by
  constructor
  · intro same
    rw [← decompose_tidyExpressions, same, decompose_tidyExpressions]
  · intro same
    rw [tidyExpressions_eq, same, tidyExpressions_eq]

/-- Rewriting bodies does not change the tidy form when it keeps their tokens. -/
theorem tidyExpressions_assemble_mapBodies {rewrite : List Char → List Char}
    (keeps : ∀ body, IsBody body → IsBody (rewrite body))
    (sameTokens : ∀ body, blankTokens (rewrite body) = blankTokens body) (text : List Char) :
    tidyExpressions ((decompose text).mapBodies rewrite).assemble = tidyExpressions text := by
  rw [tidyExpressions_eq, decompose_assemble_mapBodies keeps,
    Decomposition.mapBodies_mapBodies, tidyExpressions_eq]
  exact congrArg Decomposition.assemble
    (Decomposition.mapBodies_congr (fun body => tidyBody_eq_iff.mpr (sameTokens body)) _)

end Expression

end Pipewright
