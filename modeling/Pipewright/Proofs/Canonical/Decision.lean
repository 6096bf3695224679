import Pipewright.Proofs.Canonical.Comparing
import Pipewright.Proofs.Canonical.Identification
import Pipewright.Proofs.Json.Injectivity
import Pipewright.Proofs.Json.Squeezing
import Pipewright.Proofs.Resolution.Acyclic

/-!
# What a comparison decides

A comparison finds two documents equivalent exactly if they have one normal form, as far as
digests tell texts apart and the doubles of the documents are read back.  Where it does not,
the pretty texts that it shows are different.
-/

namespace Pipewright

namespace Canonical

open Json

variable {table : RuleTable}

theorem reals_liftFrom (visited : List String) (property : String) (scalar : Json) :
    (liftFrom table visited property scalar).reals = scalar.reals := by
  fun_induction liftFrom table visited property scalar with
  | case1 => simp [reals, itemReals]
  | case2 => rfl
  | case3 visited property _ field _ _ inner => simp [reals, memberReals, inner]
  | case4 => rfl

theorem memberReals_sortMembers_subset (members : Members) :
    memberReals (sortMembers members) ⊆ memberReals members := by
  intro number mem
  obtain ⟨member, sorted, inMember⟩ := mem_memberReals.mp mem
  exact mem_memberReals.mpr ⟨member, (sortMembers_perm members).mem_iff.mp sorted, inMember⟩

mutual

/-- Normalizing brings no new doubles into a document. -/
theorem reals_normalize_subset : (document : Json) →
    (normalize table document).reals ⊆ document.reals
  | .null => List.Subset.refl _
  | .boolean _ => List.Subset.refl _
  | .number _ => List.Subset.refl _
  | .string _ => List.Subset.refl _
  | .array items => by
      rw [normalize, reals, reals]
      exact itemReals_normalizeItems_subset items
  | .object members => by
      rw [normalize, reals, reals]
      exact List.Subset.trans (memberReals_sortMembers_subset _)
        (memberReals_normalizeMembers_subset members)

theorem itemReals_normalizeItems_subset : (items : List Json) →
    itemReals (normalizeItems table items) ⊆ itemReals items
  | [] => List.Subset.refl _
  | item :: items => by
      rw [normalizeItems, itemReals, itemReals]
      apply List.append_subset.mpr
      constructor
      · exact List.subset_append_of_subset_left _ (reals_normalize_subset item)
      · exact List.subset_append_of_subset_right _ (itemReals_normalizeItems_subset items)

theorem memberReals_normalizeMembers_subset : (members : Members) →
    memberReals (normalizeMembers table members) ⊆ memberReals members
  | [] => List.Subset.refl _
  | (key, value) :: members => by
      have settled : (if isLiftable value then lift table key (normalize table value)
          else normalize table value).reals ⊆ value.reals := by
        split
        · rw [lift, reals_liftFrom]
          exact reals_normalize_subset value
        · exact reals_normalize_subset value
      rw [normalizeMembers, memberReals, memberReals]
      apply List.append_subset.mpr
      constructor
      · exact List.subset_append_of_subset_left _ settled
      · exact List.subset_append_of_subset_right _ (memberReals_normalizeMembers_subset members)

end

end Canonical

namespace Comparer

open Canonical

variable {comparer : Comparer} {left right : Json}

theorem weigh_equivalent_iff (leftReads : ∀ number ∈ left.reals, number.ReadsBack)
    (rightReads : ∀ number ∈ right.reals, number.ReadsBack)
    (noCollision : digest left = digest right → left.compact = right.compact) :
    (weigh left right).equivalent = true ↔ left = right := by
  constructor
  · intro equivalent
    have digests : digest left = digest right := eq_of_beq equivalent
    exact Json.eq_of_compact_eq leftReads rightReads (noCollision digests)
  · rintro rfl
    exact beq_self_eq_true (digest left)

/-- The texts that a comparison shows are different, whatever the digests are. -/
theorem weigh_difference {leftText rightText : String}
    (shown : (weigh left right).difference = some (leftText, rightText)) :
    leftText = left.pretty ∧ rightText = right.pretty ∧ leftText ≠ rightText := by
  unfold weigh at shown
  simp only at shown
  split at shown
  · cases shown
  · next differ =>
      cases shown
      refine ⟨rfl, rfl, ?_⟩
      intro same
      have compacts := Json.compact_eq_of_pretty_eq same
      apply differ
      rw [digest, digest, compacts]
      exact beq_self_eq_true _

end Comparer

open Canonical in
/-- A comparison fails exactly as the walks of its documents do, the left one first.
Otherwise it finds the documents equivalent if and only if their normal forms are the same
tree, and else it shows the pretty texts of the normal forms, which differ. -/
theorem comparison_decides_identity (comparer : Comparer) {left right : Json}
    (leftReads : ∀ number ∈ left.reals, number.ReadsBack)
    (rightReads : ∀ number ∈ right.reals, number.ReadsBack)
    (noCollision :
      digest (normalize comparer.rules left) = digest (normalize comparer.rules right) →
      (normalize comparer.rules left).compact = (normalize comparer.rules right).compact) :
    (∀ cycle, comparer.compare left right = .error cycle ↔
      comparer.check left = .error cycle ∨
        (comparer.check left = .ok () ∧ comparer.check right = .error cycle)) ∧
    ((∃ comparison, comparer.compare left right = .ok comparison) ↔
      comparer.check left = .ok () ∧ comparer.check right = .ok ()) ∧
    ∀ comparison, comparer.compare left right = .ok comparison →
      (comparison.equivalent = true ↔
        normalize comparer.rules left = normalize comparer.rules right) ∧
      (comparison.difference.isSome = true ↔ comparison.equivalent = false) ∧
      ∀ leftText rightText, comparison.difference = some (leftText, rightText) →
        leftText = (normalize comparer.rules left).pretty ∧
          rightText = (normalize comparer.rules right).pretty ∧ leftText ≠ rightText := by
  refine ⟨fun _ => Comparer.compare_eq_error_iff, ?_, ?_⟩
  · constructor
    · rintro ⟨comparison, compared⟩
      obtain ⟨leftChecked, rightChecked, _⟩ := Comparer.compare_eq_ok_iff.mp compared
      exact ⟨leftChecked, rightChecked⟩
    · rintro ⟨leftChecked, rightChecked⟩
      exact ⟨_, Comparer.compare_of_checked leftChecked rightChecked⟩
  · intro comparison compared
    obtain ⟨_, _, rfl⟩ := Comparer.compare_eq_ok_iff.mp compared
    refine ⟨?_, ?_, fun _ _ => Comparer.weigh_difference⟩
    · apply Comparer.weigh_equivalent_iff _ _ noCollision
      · intro number mem
        exact leftReads number (reals_normalize_subset left mem)
      · intro number mem
        exact rightReads number (reals_normalize_subset right mem)
    · rw [Comparer.weigh_difference_isSome]
      simp

/-- A tree that is labelled with a number. -/
def numberedTree (number : Number) : Json :=
  .object [("label", .number number)]

/-- One half. -/
def half : Binary64 :=
  ⟨false, Nat.pow 2 52, -53⟩

theorem normalize_numberedTree (number : Number) :
    Canonical.normalize (Comparer.ofSchema Schema.treeSchema).rules (numberedTree number) =
      numberedTree number := by
  have noRules : (Comparer.ofSchema Schema.treeSchema).rules = RuleTable.empty := by decide +kernel
  rw [noRules, numberedTree, Canonical.normalize_object]
  simp only [List.map_cons, List.map_nil, Canonical.normalMember, Canonical.normalize]
  rw [Canonical.settle_of_liftable rfl, Canonical.lift_of_unlinked rfl]
  rfl

/-- One half and one are different labels, and the comparison shows both trees. -/
theorem comparison_decides_identity_on_labels :
    let left := numberedTree (.real half)
    let right := numberedTree (.integer 1)
    (∀ number ∈ left.reals, number.ReadsBack) ∧ (∀ number ∈ right.reals, number.ReadsBack) ∧
      Canonical.digest left ≠ Canonical.digest right ∧
      ∃ comparison, (Comparer.ofSchema Schema.treeSchema).compare left right = .ok comparison ∧
        comparison.equivalent = false ∧ comparison.difference.isSome = true := by
  intro left right
  have leftReads : ∀ number ∈ left.reals, number.ReadsBack := by
    intro number mem
    obtain rfl : number = half := by
      simpa [left, numberedTree, Json.reals, Json.memberReals] using mem
    rfl
  have rightReads : ∀ number ∈ right.reals, number.ReadsBack := by
    intro number mem
    simp [right, numberedTree, Json.reals, Json.memberReals] at mem
  have digests : Canonical.digest left ≠ Canonical.digest right := by decide +kernel
  have checked := Schema.treeSchema_acyclic.checkDocument_ok
  obtain ⟨_, succeeds, decides⟩ := comparison_decides_identity
    (Comparer.ofSchema Schema.treeSchema) leftReads rightReads (by
      rw [normalize_numberedTree, normalize_numberedTree]
      intro same
      exact absurd same digests)
  obtain ⟨comparison, compared⟩ := succeeds.mpr ⟨checked left, checked right⟩
  obtain ⟨identity, shows, _⟩ := decides comparison compared
  have different : comparison.equivalent = false := by
    rw [Bool.eq_false_iff]
    intro equivalent
    have same := identity.mp equivalent
    rw [normalize_numberedTree, normalize_numberedTree] at same
    exact digests (congrArg Canonical.digest same)
  exact ⟨leftReads, rightReads, digests, comparison, compared, different, shows.mpr different⟩

end Pipewright
