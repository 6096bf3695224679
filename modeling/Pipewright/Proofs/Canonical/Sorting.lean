import Pipewright.Canonical.Normalize
import Mathlib.Data.List.Nodup

/-!
# Sorted members

Sorting permutes the members of an object and puts their keys in order.  Where
keys are distinct, the sorted members do not depend on the order they came in.
-/

namespace Pipewright

namespace Canonical

theorem insertMember_perm (member : String × Json) (members : Members) :
    (insertMember member members).Perm (member :: members) := by
  induction members with
  | nil => exact List.Perm.refl _
  | cons first members inner =>
      simp only [insertMember]
      split
      · exact List.Perm.refl _
      · exact (inner.cons first).trans (List.Perm.swap member first members)

theorem sortMembers_perm (members : Members) : (sortMembers members).Perm members := by
  induction members with
  | nil => exact List.Perm.refl _
  | cons first members inner =>
      exact (insertMember_perm first (sortMembers members)).trans (inner.cons first)

/-- The keys come in order. -/
def SortedByKey (members : Members) : Prop :=
  members.Pairwise fun earlier later => earlier.1 ≤ later.1

theorem insertMember_sorted (member : String × Json) {members : Members}
    (sorted : SortedByKey members) : SortedByKey (insertMember member members) := by
  induction members with
  | nil => exact List.pairwise_singleton _ _
  | cons first members inner =>
      obtain ⟨below, sortedRest⟩ := List.pairwise_cons.mp sorted
      simp only [insertMember]
      split
      · next before =>
          refine List.pairwise_cons.mpr ⟨?_, sorted⟩
          intro other place
          rcases List.mem_cons.mp place with same | later
          · exact same ▸ before
          · exact String.le_trans before (below other later)
      · next notBefore =>
          have after : first.1 ≤ member.1 :=
            (String.le_total first.1 member.1).resolve_right notBefore
          refine List.pairwise_cons.mpr ⟨?_, inner sortedRest⟩
          intro other place
          rcases List.mem_cons.mp ((insertMember_perm member members).mem_iff.mp place) with
            same | later
          · exact same ▸ after
          · exact below other later

theorem sortMembers_sorted (members : Members) : SortedByKey (sortMembers members) := by
  induction members with
  | nil => exact List.Pairwise.nil
  | cons first members inner => exact insertMember_sorted first inner

/-- Members with distinct keys are sorted in only one way. -/
theorem eq_of_perm_of_sorted {left right : Members} (permutation : left.Perm right)
    (distinct : (left.map (·.1)).Nodup) (leftSorted : SortedByKey left)
    (rightSorted : SortedByKey right) : left = right := by
  refine permutation.eq_of_pairwise ?_ leftSorted rightSorted
  intro first second inLeft inRight below above
  have sameKey : first.1 = second.1 := String.le_antisymm below above
  exact List.inj_on_of_nodup_map distinct inLeft (permutation.mem_iff.mpr inRight) sameKey

theorem sortMembers_eq_of_perm {left right : Members} (permutation : left.Perm right)
    (distinct : (left.map (·.1)).Nodup) : sortMembers left = sortMembers right := by
  have sortedPermutation : (sortMembers left).Perm (sortMembers right) :=
    (sortMembers_perm left).trans (permutation.trans (sortMembers_perm right).symm)
  have sortedDistinct : ((sortMembers left).map (·.1)).Nodup :=
    ((sortMembers_perm left).map _).nodup_iff.mpr distinct
  exact eq_of_perm_of_sorted sortedPermutation sortedDistinct
    (sortMembers_sorted left) (sortMembers_sorted right)

end Canonical

end Pipewright
