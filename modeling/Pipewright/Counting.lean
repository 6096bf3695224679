/-!
# Counting what is left

Searches that never enter a place twice end because every step leaves fewer
places that were not visited.
-/

namespace Pipewright

/-- A condition that is stronger, and strictly so on some member, counts fewer
members. -/
theorem countP_lt_of_imp {α : Type} {strong weak : α → Bool} {members : List α}
    (witness : α) (implied : ∀ member, strong member = true → weak member = true)
    (present : witness ∈ members) (holds : weak witness = true)
    (fails : strong witness = false) : members.countP strong < members.countP weak := by
  induction members with
  | nil => cases present
  | cons first rest inner =>
      have below : rest.countP strong ≤ rest.countP weak :=
        List.countP_mono_left fun member _ => implied member
      rw [List.countP_cons, List.countP_cons]
      rcases List.mem_cons.mp present with same | later
      · subst same
        simp only [holds, fails, Bool.false_eq_true, if_false, if_true]
        omega
      · have strict := inner later
        by_cases strongFirst : strong first = true
        · simp only [strongFirst, implied first strongFirst, if_true]
          omega
        · simp only [strongFirst, Bool.false_eq_true, if_false]
          split <;> omega

/-- What is not in a longer list is not in its beginning, and an added member that
was absent counts no more. -/
theorem countP_append_single_lt {members visited : List String} {added : String}
    (present : added ∈ members) (absent : visited.contains added = false) :
    (members.countP fun member => !(visited ++ [added]).contains member) <
      members.countP fun member => !visited.contains member := by
  apply countP_lt_of_imp added
  · intro member free
    simp only [List.contains_append, Bool.not_or, Bool.and_eq_true] at free
    exact free.1
  · exact present
  · simp only [absent, Bool.not_false]
  · simp

end Pipewright
