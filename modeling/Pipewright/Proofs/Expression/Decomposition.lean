import Pipewright.Expression
import Pipewright.Proofs.Expression.Tokens
import Mathlib.Data.List.Chain

/-!
# The decomposition of a string

A string is cut at its expressions in one way only: before an expression no text
holds an opening mark, a body holds no closing mark, and what is left holds no
expression.  Bodies can therefore be replaced by other bodies without moving any
cut.
-/

namespace Pipewright

namespace Expression

/-- The two characters are not both closing braces. -/
def NotClosing (left right : Char) : Prop :=
  ¬(left = '\x7d' ∧ right = '\x7d')

/-- A body holds no closing mark, also not one that ends in the mark behind it. -/
def IsBody (body : List Char) : Prop :=
  List.IsChain NotClosing (body ++ ['\x7d'])

/-- Somewhere in the text an opening mark is followed by a closing mark. -/
def HoldsExpression (text : List Char) : Prop :=
  ∃ before body after, text = before ++ openMark ++ body ++ closeMark ++ after

/-- The cuts of a string are those of its expressions, found from the left. -/
def WellCut : List Char → List (List Char × List Char) → Prop
  | lead, [] => ¬HoldsExpression lead
  | lead, (body, text) :: rest => ¬openMark <:+: lead ∧ IsBody body ∧ WellCut text rest

/-! ## Cutting at the first closing mark -/

theorem cutAtClose?_append {body : List Char} (isBody : IsBody body) (after : List Char) :
    cutAtClose? (body ++ closeMark ++ after) = some (body, after) := by
  induction body with
  | nil => rfl
  | cons character rest inner =>
      have restBody : IsBody rest := (List.isChain_cons.mp isBody).2
      have notFirst : ∀ more,
          character :: (rest ++ closeMark ++ after) ≠ '\x7d' :: '\x7d' :: more := by
        intro more same
        injection same with first second
        cases rest with
        | nil => exact (List.isChain_cons_cons.mp isBody).1 ⟨first, rfl⟩
        | cons next rest =>
            injection second with nextSame _
            exact (List.isChain_cons_cons.mp isBody).1 ⟨first, nextSame⟩
      rw [List.cons_append, List.cons_append, cutAtClose?]
      · rw [inner restBody]
        rfl
      · intro more first second
        exact notFirst more (by rw [first, second])

theorem eq_of_cutAtClose? {text body after : List Char}
    (cut : cutAtClose? text = some (body, after)) :
    text = body ++ closeMark ++ after ∧ IsBody body := by
  fun_induction cutAtClose? text generalizing body after with
  | case1 rest =>
      cases cut
      exact ⟨rfl, List.isChain_singleton _⟩
  | case2 character rest notFirst inner =>
      obtain ⟨⟨body', after'⟩, cut', same⟩ := Option.map_eq_some_iff.mp cut
      cases same
      obtain ⟨whole, isBody⟩ := inner cut'
      refine ⟨by rw [whole]; rfl, List.IsChain.cons isBody ?_⟩
      intro next head both
      subst whole
      cases body' with
      | nil => exact notFirst _ both.1 rfl
      | cons first more =>
          cases head
          cases more with
          | nil => exact notFirst _ both.1 (by rw [both.2]; rfl)
          | cons => exact notFirst _ both.1 (by rw [both.2]; rfl)
  | case3 => cases cut

theorem exists_cutAtClose? (before after : List Char) :
    ∃ body rest, cutAtClose? (before ++ closeMark ++ after) = some (body, rest) := by
  induction before with
  | nil => exact ⟨[], after, rfl⟩
  | cons character more inner =>
      obtain ⟨body, rest, cut⟩ := inner
      rw [List.cons_append, List.cons_append]
      unfold cutAtClose?
      split
      · exact ⟨_, _, rfl⟩
      · next same =>
          injection same with first second
          rw [← second, cut]
          exact ⟨_, _, rfl⟩
      · next same => cases same

/-! ## Expressions at the beginning of a text -/

theorem expressionAt?_append {body : List Char} (isBody : IsBody body) (after : List Char) :
    expressionAt? (openMark ++ body ++ closeMark ++ after) = some (body, after) :=
  cutAtClose?_append isBody after

theorem eq_of_expressionAt? {text body after : List Char}
    (found : expressionAt? text = some (body, after)) :
    text = openMark ++ body ++ closeMark ++ after ∧ IsBody body := by
  unfold expressionAt? at found
  split at found
  · obtain ⟨whole, isBody⟩ := eq_of_cutAtClose? found
    rw [whole]
    exact ⟨rfl, isBody⟩
  · cases found

theorem openMark_prefix_of_expressionAt? {text : List Char}
    {hole : List Char × List Char} (found : expressionAt? text = some hole) :
    openMark <+: text := by
  have whole := (eq_of_expressionAt? found).1
  rw [List.append_assoc, List.append_assoc] at whole
  exact ⟨_, whole.symm⟩

theorem exists_expressionAt? (body after : List Char) :
    ∃ first rest, expressionAt? (openMark ++ body ++ closeMark ++ after) = some (first, rest) :=
  exists_cutAtClose? body after

/-- An opening mark does not begin in a text without one and end in the mark behind
it. -/
theorem openMark_not_prefix_cons {character : Char} {lead : List Char}
    (plain : ¬openMark <:+: character :: lead) (after : List Char) :
    ¬openMark <+: character :: lead ++ openMark ++ after := by
  intro ⟨rest, same⟩
  match lead with
  | [] => injection same with _ tail; injection tail with second; cases second
  | [_] =>
      injection same with _ tail
      injection tail with _ tail
      injection tail with third
      cases third
  | _ :: _ :: more =>
      injection same with first tail
      injection tail with second tail
      injection tail with third _
      subst first second third
      exact plain ⟨[], more, rfl⟩

/-! ## Decomposing and assembling -/

theorem decompose_nil : decompose [] = ⟨[], []⟩ := by
  rw [decompose]

theorem decompose_of_expression {text body after : List Char}
    (found : expressionAt? text = some (body, after)) :
    decompose text = (decompose after).consHole body := by
  cases text with
  | nil => cases found
  | cons character rest =>
      rw [decompose]
      split
      · next found' =>
          rw [found] at found'
          cases found'
          rfl
      · next missing =>
          rw [found] at missing
          cases missing

theorem decompose_of_text {character : Char} {rest : List Char}
    (missing : expressionAt? (character :: rest) = none) :
    decompose (character :: rest) = (decompose rest).consText character := by
  rw [decompose]
  split
  · next found =>
      rw [missing] at found
      cases found
  · rfl

namespace Decomposition

theorem assemble_consText (character : Char) (decomposition : Decomposition) :
    (decomposition.consText character).assemble = character :: decomposition.assemble :=
  rfl

theorem assemble_consHole (body : List Char) (decomposition : Decomposition) :
    (decomposition.consHole body).assemble =
      openMark ++ body ++ closeMark ++ decomposition.assemble := by
  simp [consHole, assemble]

end Decomposition

/-- Cutting loses nothing. -/
theorem assemble_decompose (text : List Char) : (decompose text).assemble = text := by
  fun_induction decompose text with
  | case1 => rfl
  | case2 character rest body after found inner =>
      rw [Decomposition.assemble_consHole, inner, ← (eq_of_expressionAt? found).1]
  | case3 character rest missing inner =>
      rw [Decomposition.assemble_consText, inner]

private theorem holdsExpression_cons {character : Char} {text : List Char}
    (holds : HoldsExpression (character :: text)) :
    (∃ body after, expressionAt? (character :: text) = some (body, after)) ∨
      HoldsExpression text := by
  obtain ⟨before, body, after, whole⟩ := holds
  cases before with
  | nil =>
      left
      rw [whole]
      exact exists_expressionAt? body after
  | cons first before =>
      injection whole with _ tail
      exact .inr ⟨before, body, after, tail⟩

/-- Every string is cut at its expressions. -/
theorem wellCut_decompose (text : List Char) :
    WellCut (decompose text).lead (decompose text).holes := by
  fun_induction decompose text with
  | case1 =>
      rintro ⟨before, body, after, same⟩
      have lengths := congrArg List.length same
      simp [openMark] at lengths
  | case2 character rest body after found inner =>
      refine ⟨?_, (eq_of_expressionAt? found).2, inner⟩
      rintro ⟨before, behind, same⟩
      have empty : before ++ openMark ++ behind = [] := same
      simp [openMark] at empty
  | case3 character rest missing inner =>
      have whole := assemble_decompose rest
      generalize decompose rest = parts at whole inner
      obtain ⟨lead, holes⟩ := parts
      cases holes with
      | nil =>
          simp only [Decomposition.assemble, List.flatMap_nil, List.append_nil] at whole
          subst whole
          intro holds
          rcases holdsExpression_cons holds with ⟨body, after, found⟩ | later
          · rw [missing] at found
            cases found
          · exact inner later
      | cons hole holes =>
          obtain ⟨body, text⟩ := hole
          obtain ⟨plain, isBody, others⟩ := inner
          refine ⟨?_, isBody, others⟩
          rintro ⟨before, behind, same⟩
          cases before with
          | nil =>
              -- the opening mark would be closed by the first expression behind it
              have opened : character :: rest = openMark ++ (behind ++ openMark ++ body) ++
                  closeMark ++ Decomposition.assemble ⟨text, holes⟩ := by
                rw [← whole]
                simp only [Decomposition.assemble, List.flatMap_cons]
                rw [← List.cons_append, Decomposition.consText] at *
                simp only at same
                rw [← same]
                simp
              obtain ⟨first, after, found⟩ := exists_expressionAt?
                (behind ++ openMark ++ body) (Decomposition.assemble ⟨text, holes⟩)
              rw [← opened, missing] at found
              cases found
          | cons first before =>
              injection same with _ tail
              exact plain ⟨before, behind, tail⟩

/-- A string that is assembled from its cuts is cut in the same places. -/
theorem decompose_assemble {lead : List Char} {holes : List (List Char × List Char)}
    (wellCut : WellCut lead holes) :
    decompose (Decomposition.assemble ⟨lead, holes⟩) = ⟨lead, holes⟩ := by
  induction holes generalizing lead with
  | nil =>
      rw [Decomposition.assemble, List.flatMap_nil, List.append_nil]
      induction lead with
      | nil => exact decompose_nil
      | cons character lead leadInner =>
          have missing : expressionAt? (character :: lead) = none := by
            cases found : expressionAt? (character :: lead) with
            | none => rfl
            | some hole =>
                exact absurd ⟨[], hole.1, hole.2, (eq_of_expressionAt? found).1⟩ wellCut
          have later : ¬HoldsExpression lead := by
            intro ⟨before, body, after, whole⟩
            exact wellCut ⟨character :: before, body, after, by rw [whole]; rfl⟩
          rw [decompose_of_text missing, leadInner later]
          rfl
  | cons hole holes inner =>
      obtain ⟨body, text⟩ := hole
      obtain ⟨plain, isBody, others⟩ := wellCut
      have tail := inner others
      have parts : Decomposition.assemble ⟨lead, (body, text) :: holes⟩ =
          lead ++ openMark ++ (body ++ closeMark ++ Decomposition.assemble ⟨text, holes⟩) := by
        simp [Decomposition.assemble]
      rw [parts]
      clear parts
      induction lead with
      | nil =>
          have found := expressionAt?_append isBody (Decomposition.assemble ⟨text, holes⟩)
          rw [List.append_assoc, List.append_assoc] at found
          rw [List.nil_append, List.append_assoc, decompose_of_expression found, tail]
          rfl
      | cons character lead leadInner =>
          have missing : expressionAt? (character :: (lead ++ openMark ++
              (body ++ closeMark ++ Decomposition.assemble ⟨text, holes⟩))) = none := by
            cases found : expressionAt? (character :: (lead ++ openMark ++
                (body ++ closeMark ++ Decomposition.assemble ⟨text, holes⟩))) with
            | none => rfl
            | some hole =>
                exact absurd (openMark_prefix_of_expressionAt? found)
                  (openMark_not_prefix_cons plain _)
          have later : ¬openMark <:+: lead :=
            fun inside => plain (inside.trans (List.infix_cons (List.infix_refl lead)))
          rw [List.cons_append, List.cons_append, decompose_of_text missing, leadInner later]
          rfl

/-- The cuts of a string are the only ones that assemble to it. -/
theorem decompose_eq_iff {text lead : List Char} {holes : List (List Char × List Char)} :
    decompose text = ⟨lead, holes⟩ ↔
      WellCut lead holes ∧ text = Decomposition.assemble ⟨lead, holes⟩ := by
  constructor
  · intro same
    have wellCut := wellCut_decompose text
    have whole := assemble_decompose text
    rw [same] at wellCut whole
    exact ⟨wellCut, whole.symm⟩
  · intro ⟨wellCut, whole⟩
    rw [whole, decompose_assemble wellCut]

/-- A string is found to contain an expression exactly if it holds one. -/
theorem containsExpression_iff {text : List Char} :
    containsExpression text = true ↔ HoldsExpression text := by
  have wellCut := wellCut_decompose text
  have whole := assemble_decompose text
  unfold containsExpression
  generalize decompose text = parts at wellCut whole ⊢
  obtain ⟨lead, holes⟩ := parts
  subst whole
  cases holes with
  | nil =>
      have nothing : ¬HoldsExpression lead := wellCut
      simp [Decomposition.assemble, nothing]
  | cons hole holes =>
      have holds : HoldsExpression (Decomposition.assemble ⟨lead, hole :: holes⟩) :=
        ⟨lead, hole.1, Decomposition.assemble ⟨hole.2, holes⟩, by simp [Decomposition.assemble]⟩
      simp [holds]

end Expression

end Pipewright
