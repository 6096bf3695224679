import Pipewright.CommandLine.FileName

/-!
# Names in paths

A path that was joined from a directory and a name has the name as its last part, if the
name holds no slash.  The stem of a path holds none.
-/

namespace Pipewright

namespace FileName

/-- A name that leads from a directory to an entry of it. -/
structure IsProper (name : String) : Prop where
  noSlash : '/' ∉ name.toList
  notEmpty : name ≠ ""
  notHere : name ≠ "."
  notUp : name ≠ ".."

/-! ## Parts of paths -/

variable {directory name : String}

theorem parts_of_noSlash (noSlash : '/' ∉ name.toList) : parts name = [name] := by
  rw [parts, List.splitOn_eq_singleton noSlash, List.map_singleton, String.ofList_toList]

theorem parts_append_slash (noSlash : '/' ∉ name.toList) (directory : String) :
    parts (directory ++ "/" ++ name) = parts directory ++ [name] := by
  have letters : (directory ++ "/" ++ name).toList =
      directory.toList ++ '/' :: name.toList := by
    rw [String.toList_append, String.toList_append, List.append_assoc]
    rfl
  rw [parts, letters, List.splitOn_append_cons_self, List.map_append, ← parts, ← parts,
    parts_of_noSlash noSlash]

/-- The parts that lead to a directory in the paths of its entries. -/
def leading (directory : String) : List String :=
  if directory.isEmpty then []
  else if directory.endsWith "/" then (parts directory).dropLast
  else parts directory

/-- The path of an entry leads to the directory and then to the name. -/
theorem parts_join (noSlash : '/' ∉ name.toList) (directory : String) :
    parts (join directory name) = leading directory ++ [name] := by
  have notRooted : name.startsWith "/" = false := by
    rw [Bool.eq_false_iff]
    intro rooted
    exact noSlash ((String.startsWith_string_iff.mp rooted).subset (List.mem_singleton_self '/'))
  rw [join, leading, notRooted, Bool.or_false]
  split
  · exact parts_of_noSlash noSlash
  · split
    · next slashed =>
        obtain ⟨letters, same⟩ := String.Slice.endsWith_string_iff.mp slashed
        have whole : directory = String.ofList letters ++ "/" := by
          apply String.toList_injective
          rw [String.toList_append, String.toList_ofList, same, String.copy_toSlice]
        have slash := parts_append_slash (by decide : '/' ∉ "".toList) (String.ofList letters)
        rw [String.append_empty] at slash
        rw [whole, parts_append_slash noSlash, slash, List.dropLast_concat]
    · exact parts_append_slash noSlash directory

/-! ## Names without slashes -/

theorem noSlash_of_mem_splitOn {letters segment : List Char}
    (member : segment ∈ letters.splitOn '/') : '/' ∉ segment := by
  induction letters generalizing segment with
  | nil =>
      rw [List.splitOn_nil, List.mem_singleton] at member
      rw [member]
      exact List.not_mem_nil
  | cons letter rest inner =>
      rw [List.splitOn_cons_eq_if_modifyHead] at member
      split at member
      · rcases List.mem_cons.mp member with rfl | later
        · exact List.not_mem_nil
        · exact inner later
      · next plain =>
          cases segments : rest.splitOn '/' with
          | nil => exact absurd segments (List.splitOn_ne_nil '/' rest)
          | cons first others =>
              rw [segments, List.modifyHead_cons, List.mem_cons] at member
              rcases member with rfl | later
              · rw [List.mem_cons, not_or]
                refine ⟨fun same => plain (beq_iff_eq.mpr same.symm), inner ?_⟩
                rw [segments]
                exact List.mem_cons_self
              · apply inner
                rw [segments]
                exact List.mem_cons_of_mem first later

theorem noSlash_of_last? {path : String} (last : last? path = some name) :
    '/' ∉ name.toList := by
  unfold last? at last
  split at last
  · cases last
  · have member := List.mem_of_getLast? last
    obtain ⟨letters, segment, rfl⟩ := List.mem_map.mp (List.mem_filter.mp member).1
    rw [String.toList_ofList]
    exact noSlash_of_mem_splitOn segment

/-- The stem of a name is made of letters of the name. -/
theorem split_fst_subset (name : String) : (split name).1.toList ⊆ name.toList := by
  unfold split
  dsimp only
  split
  · next dot stem cut =>
      split
      · exact List.Subset.refl _
      · intro letter member
        rw [String.toList_ofList, List.mem_reverse] at member
        have whole : letter ∈ name.toList.reverse :=
          (List.dropWhile_sublist _).subset (cut ▸ List.mem_cons_of_mem dot member)
        exact List.mem_reverse.mp whole
  · exact List.Subset.refl _

theorem noSlash_of_stem? {path stem : String} (found : stem? path = some stem) :
    '/' ∉ stem.toList := by
  obtain ⟨name, last, rfl⟩ := Option.map_eq_some_iff.mp found
  exact mt (fun member => split_fst_subset name member) (noSlash_of_last? last)

end FileName

end Pipewright
