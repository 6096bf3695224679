import Pipewright.Proofs.Canonical.Lifting
import Pipewright.Proofs.Canonical.Sorting
import Pipewright.Proofs.Expression.Bodies

/-!
# Documents that mean the same

`Congruent` is the smallest congruence on documents that ignores the order of keys
and the blanks inside expressions and that takes a scalar under a property with a
rule for its lifted form.  Every document is congruent to its normal form.
-/

namespace Pipewright

namespace Canonical

open Expression

/-- The strings differ in one expression only, whose tokens are the same. -/
def SpacingDiffers (text text' : List Char) : Prop :=
  ∃ lead front body body' after back,
    decompose text = ⟨lead, front ++ (body, after) :: back⟩ ∧
    decompose text' = ⟨lead, front ++ (body', after) :: back⟩ ∧
    blankTokens body = blankTokens body'

/-- The smallest congruence that is closed under reordering keys, changing blanks
inside an expression, and applying a rule to a scalar. -/
inductive Congruent (table : RuleTable) : Json → Json → Prop where
  | refl (document : Json) : Congruent table document document
  | symm {left right : Json} : Congruent table left right → Congruent table right left
  | trans {left middle right : Json} :
      Congruent table left middle → Congruent table middle right → Congruent table left right
  | element (before behind : List Json) {item item' : Json} :
      Congruent table item item' →
      Congruent table (.array (before ++ item :: behind)) (.array (before ++ item' :: behind))
  | member (before behind : Members) (key : String) {value value' : Json} :
      Congruent table value value' →
      Congruent table (.object (before ++ (key, value) :: behind))
        (.object (before ++ (key, value') :: behind))
  | reorder {members members' : Members} :
      members.Perm members' → Congruent table (.object members) (.object members')
  | respace {text text' : String} :
      SpacingDiffers text.toList text'.toList → Congruent table (.string text) (.string text')
  | lift (before behind : Members) {key : String} {rule : Rule} {scalar : Json} :
      table.get? key = some rule → isLiftable scalar = true →
      Congruent table (.object (before ++ (key, scalar) :: behind))
        (.object (before ++ (key, applyRule rule scalar) :: behind))

variable {table : RuleTable}

/-! ## Strings -/

/-- The expressions of a string can be tidied one after the other.  `front` are the
ones that are tidy already. -/
private theorem congruent_tidyFrom {lead : List Char}
    (front back : List (List Char × List Char)) (wellCut : WellCut lead (front ++ back)) :
    Congruent table (.string (String.ofList (Decomposition.assemble ⟨lead, front ++ back⟩)))
      (.string (String.ofList (Decomposition.assemble
        ⟨lead, front ++ back.map fun (body, after) => (tidyBody body, after)⟩))) := by
  induction back generalizing front with
  | nil => exact .refl _
  | cons hole back inner =>
      obtain ⟨body, after⟩ := hole
      have isBody : IsBody body := by
        clear inner
        induction front generalizing lead with
        | nil => exact wellCut.2.1
        | cons _ front others => exact others wellCut.2.2
      have replaced := wellCut.replace (isBody_tidyBody isBody)
      have step : SpacingDiffers
          (Decomposition.assemble ⟨lead, front ++ (body, after) :: back⟩)
          (Decomposition.assemble ⟨lead, front ++ (tidyBody body, after) :: back⟩) :=
        ⟨lead, front, body, tidyBody body, after, back, decompose_assemble wellCut,
          decompose_assemble replaced, (blankTokens_tidyBody body).symm⟩
      have rest := inner (front ++ [(tidyBody body, after)]) (by simpa using replaced)
      simp only [List.append_assoc, List.singleton_append] at rest
      exact .trans (.respace (by simpa using step)) rest

theorem congruent_tidy (text : String) :
    Congruent table (.string text) (.string (tidy text)) := by
  have chain := @congruent_tidyFrom table _ [] (decompose text.toList).holes
    (wellCut_decompose text.toList)
  have whole := assemble_decompose text.toList
  simp only [List.nil_append] at chain
  rw [whole, String.ofList_toList] at chain
  exact chain

/-! ## Scalars under a property -/

/-- A scalar may be lifted all the way.  The induction is on the links that lifting
follows. -/
theorem congruent_lift {key : String} {scalar : Json} (ends : table.Ends key)
    (liftable : isLiftable scalar = true) (before behind : Members) :
    Congruent table (.object (before ++ (key, scalar) :: behind))
      (.object (before ++ (key, lift table key scalar) :: behind)) := by
  induction ends generalizing before behind with
  | @stop key unlinked =>
      rw [lift_of_unlinked unlinked]
      unfold promoted
      split
      · next promote =>
          have step := Congruent.lift before behind promote liftable
          rw [applyRule_promoteToArray liftable] at step
          exact step
      · exact .refl _
  | @step key field linked ends inner =>
      have step := Congruent.lift before behind (RuleTable.wrapField?_eq_some_iff.mp linked) liftable
      rw [applyRule_wrapInObject field liftable] at step
      rw [lift_of_linked scalar linked ends]
      exact .trans step (.member before behind key (inner [] []))

theorem isLiftable_normalize (document : Json) :
    isLiftable (normalize table document) = isLiftable document := by
  cases document <;> rfl

/-! ## Normal forms -/

mutual

/-- Where all links end, every document is congruent to its normal form. -/
theorem congruent_normalize (ends : ∀ property, table.Ends property) (document : Json) :
    Congruent table document (normalize table document) := by
  cases document with
  | null => exact .refl _
  | boolean => exact .refl _
  | number => exact .refl _
  | string text => exact congruent_tidy text
  | array items => exact congruent_normalizeItems ends [] items
  | object members =>
      exact .trans (congruent_normalizeMembers ends [] members)
        (.reorder (sortMembers_perm (normalizeMembers table members)).symm)

theorem congruent_normalizeItems (ends : ∀ property, table.Ends property)
    (before items : List Json) :
    Congruent table (.array (before ++ items)) (.array (before ++ normalizeItems table items)) := by
  cases items with
  | nil => exact .refl _
  | cons item items =>
      have first := Congruent.element before items (congruent_normalize ends item)
      have rest := congruent_normalizeItems ends (before ++ [normalize table item]) items
      simp only [List.append_assoc, List.singleton_append] at rest
      exact .trans first rest

theorem congruent_normalizeMembers (ends : ∀ property, table.Ends property)
    (before members : Members) :
    Congruent table (.object (before ++ members))
      (.object (before ++ normalizeMembers table members)) := by
  cases members with
  | nil => exact .refl _
  | cons member members =>
      obtain ⟨key, value⟩ := member
      have inside := Congruent.member before members key (congruent_normalize ends value)
      rw [normalizeMembers]
      by_cases liftable : isLiftable value = true
      · have normalLiftable := (@isLiftable_normalize table value).trans liftable
        have lifted := congruent_lift (ends key) normalLiftable before members
        have rest := congruent_normalizeMembers ends
          (before ++ [(key, lift table key (normalize table value))]) members
        simp only [List.append_assoc, List.singleton_append] at rest
        simp only [liftable, if_true]
        exact .trans inside (.trans lifted rest)
      · have rest := congruent_normalizeMembers ends
          (before ++ [(key, normalize table value)]) members
        simp only [List.append_assoc, List.singleton_append] at rest
        simp only [liftable, Bool.false_eq_true, if_false]
        exact .trans inside rest

end

end Canonical

end Pipewright
