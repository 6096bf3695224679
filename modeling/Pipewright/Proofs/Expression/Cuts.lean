import Pipewright.Proofs.Expression.Decomposition

/-!
# Cutting from the left

A string can be written in exactly one way as texts with expressions between them such that
every body ends at the first closing mark, no text in front of an expression holds an opening
mark, and no opening mark in the last text is closed.  The segments of the string, whether it
contains an expression and whether it is one as a whole are read off from it.
-/

namespace Pipewright

namespace Expression

/-- Of a body and the closing mark behind it, only the end is a closing mark. -/
def ClosesOnce (body : List Char) : Prop :=
  ∀ before after, body ++ closeMark = before ++ closeMark ++ after → before = body

theorem closesOnce_iff {body : List Char} : ClosesOnce body ↔ IsBody body := by
  constructor
  · intro once
    obtain ⟨first, rest, cut⟩ := exists_cutAtClose? body []
    obtain ⟨whole, isBody⟩ := eq_of_cutAtClose? cut
    rw [List.append_nil] at whole
    rw [← once first rest whole]
    exact isBody
  · intro isBody before after same
    rcases List.eq_nil_or_concat after with rfl | ⟨more, last, rfl⟩
    · rw [List.append_nil] at same
      exact (List.append_cancel_right same).symm
    · -- an earlier mark would lie in the body and the first brace behind it
      rw [List.concat_eq_append, ← List.append_assoc] at same
      have shorter : body ++ ['\x7d'] ++ ['\x7d'] = before ++ closeMark ++ more ++ [last] := by
        rw [List.append_assoc]
        exact same
      have inside : closeMark <:+: body ++ ['\x7d'] :=
        ⟨before, more, (List.append_inj_left' shorter rfl).symm⟩
      have chain : List.IsChain NotClosing closeMark := List.IsChain.infix isBody inside
      exact absurd ⟨rfl, rfl⟩ (List.isChain_cons_cons.mp chain).1

namespace Decomposition

/-- The texts before, between and behind the expressions. -/
def texts (decomposition : Decomposition) : List (List Char) :=
  decomposition.lead :: decomposition.holes.map fun (_, text) => text

/-- Expressions are found from the left, and each is as short as possible. -/
structure IsLeftmostShortest (decomposition : Decomposition) : Prop where
  bodies : ∀ hole ∈ decomposition.holes, ClosesOnce hole.1
  opened : ∀ text ∈ decomposition.texts.dropLast, ¬openMark <:+: text
  unclosed : ∀ text ∈ decomposition.texts.getLast?, ¬HoldsExpression text

theorem isLeftmostShortest_iff {lead : List Char} {holes : List (List Char × List Char)} :
    IsLeftmostShortest ⟨lead, holes⟩ ↔ WellCut lead holes := by
  induction holes generalizing lead with
  | nil =>
      constructor
      · intro shortest
        exact shortest.unclosed lead rfl
      · intro nothing
        exact ⟨nofun, nofun, by rintro _ ⟨⟩; exact nothing⟩
  | cons hole holes inner =>
      obtain ⟨body, text⟩ := hole
      constructor
      · intro ⟨bodies, opened, unclosed⟩
        obtain ⟨once, others⟩ := List.forall_mem_cons.mp bodies
        obtain ⟨plain, later⟩ := List.forall_mem_cons.mp opened
        exact ⟨plain, closesOnce_iff.mp once, inner.mp ⟨others, later, unclosed⟩⟩
      · intro ⟨plain, isBody, others⟩
        obtain ⟨bodies, opened, unclosed⟩ := inner.mpr others
        exact ⟨List.forall_mem_cons.mpr ⟨closesOnce_iff.mpr isBody, bodies⟩,
          List.forall_mem_cons.mpr ⟨plain, opened⟩, unclosed⟩

/-- All texts, also empty ones, and the trimmed bodies between them. -/
def pieces (decomposition : Decomposition) : List Segment :=
  .text decomposition.lead :: decomposition.holes.flatMap fun (body, text) =>
    [.expression (trimBlanks body), .text text]

theorem textSegment_eq_filter (content : List Char) :
    textSegment content = [Segment.text content].filter (· ≠ .text []) := by
  cases content with
  | nil => rfl
  | cons => rfl

/-- The segments are the pieces without empty texts. -/
theorem segments_eq_filter (decomposition : Decomposition) :
    decomposition.segments = decomposition.pieces.filter (· ≠ .text []) := by
  have hole : ∀ body text : List Char,
      Segment.expression (trimBlanks body) :: textSegment text =
        [Segment.expression (trimBlanks body), .text text].filter (· ≠ .text []) := by
    intro body text
    rw [List.filter_cons_of_pos (by simp), textSegment_eq_filter]
  have split : decomposition.pieces = [.text decomposition.lead] ++
      decomposition.holes.flatMap fun (body, text) =>
        [.expression (trimBlanks body), .text text] := rfl
  rw [split, List.filter_append, List.filter_flatMap, ← textSegment_eq_filter]
  simp only [segments, hole]

/-- The only segment is an expression exactly if there is one expression and no text. -/
theorem segments_eq_expression_iff {decomposition : Decomposition} {body : List Char} :
    decomposition.segments = [.expression body] ↔
      ∃ inner, decomposition = ⟨[], [(inner, [])]⟩ ∧ body = trimBlanks inner := by
  constructor
  · obtain ⟨lead, holes⟩ := decomposition
    intro lone
    rcases lead with _ | ⟨first, lead⟩
    · match holes with
      | [] => cases lone
      | (inner, text) :: rest =>
          have split : segments ⟨[], (inner, text) :: rest⟩ =
              .expression (trimBlanks inner) :: (textSegment text ++ segments ⟨[], rest⟩) := rfl
          rw [split] at lone
          obtain ⟨same, nothing⟩ := List.cons.inj lone
          obtain ⟨noText, noRest⟩ := List.append_eq_nil_iff.mp nothing
          have empty : text = [] := by
            cases text with
            | nil => rfl
            | cons => cases noText
          have last : rest = [] := by
            cases rest with
            | nil => rfl
            | cons => cases noRest
          subst empty last
          exact ⟨inner, rfl, (Segment.expression.inj same).symm⟩
    · cases lone
  · rintro ⟨inner, rfl, rfl⟩
    rfl

end Decomposition

theorem wholeExpression?_eq_some_iff {text body : List Char} :
    wholeExpression? text = some body ↔ segments text = [.expression body] := by
  unfold wholeExpression?
  split
  · next found same => simp [same]
  · next different =>
      constructor
      · nofun
      · intro same
        exact absurd same (different body)

/-- Every string is cut from the left in exactly one way.  Its segments are the cut pieces
with empty texts left out and bodies trimmed, it contains an expression if something was cut
out, and it is an expression as a whole if one body was and no text is left. -/
theorem cut_from_the_left (text : List Char) :
    ∃ decomposition : Decomposition,
      (∀ other : Decomposition,
        text = other.assemble ∧ other.IsLeftmostShortest ↔ other = decomposition) ∧
      segments text = decomposition.pieces.filter (· ≠ .text []) ∧
      (containsExpression text = true ↔ 1 ≤ decomposition.holes.length) ∧
      ∀ body, wholeExpression? text = some body ↔
        ∃ inner, decomposition = ⟨[], [(inner, [])]⟩ ∧ body = trimBlanks inner := by
  refine ⟨decompose text, ?_, Decomposition.segments_eq_filter _, ?_, ?_⟩
  · intro ⟨lead, holes⟩
    rw [Decomposition.isLeftmostShortest_iff, and_comm, ← decompose_eq_iff, eq_comm]
  · rw [containsExpression, Bool.not_eq_true', List.isEmpty_eq_false_iff,
      ← List.length_pos_iff, Nat.succ_le_iff]
  · intro body
    rw [wholeExpression?_eq_some_iff, segments, Decomposition.segments_eq_expression_iff]

end Expression

end Pipewright
