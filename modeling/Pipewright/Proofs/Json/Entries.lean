import Pipewright.Proofs.Json.Keys

/-!
# Putting entries

Putting several entries into a table, one after the other, is associative: a table whose keys
are distinct may be put as it is or built up first.
-/

namespace Pipewright

variable {α : Type}

/-- The entries with some more put into them, in order. -/
def putEntries (entries more : List (String × α)) : List (String × α) :=
  more.foldl (fun entries entry => putEntry entries entry.1 entry.2) entries

@[simp] theorem putEntries_nil (entries : List (String × α)) : putEntries entries [] = entries :=
  rfl

@[simp] theorem putEntries_cons (entries more : List (String × α)) (entry : String × α) :
    putEntries entries (entry :: more) =
      putEntries (putEntry entries entry.1 entry.2) more := rfl

/-! ## Looking entries up -/

theorem lookup_cons_ite (entries : List (String × α)) (key name : String) (value : α) :
    ((key, value) :: entries).lookup name =
      if name = key then some value else entries.lookup name := by
  rw [List.lookup_cons]
  by_cases same : name = key
  · simp [same]
  · simp [same, beq_false_of_ne same]

theorem lookup_putEntry (entries : List (String × α)) (key name : String) (value : α) :
    (putEntry entries key value).lookup name =
      if name = key then some value else entries.lookup name := by
  induction entries with
  | nil => exact lookup_cons_ite [] key name value
  | cons entry rest inner =>
      obtain ⟨present, old⟩ := entry
      by_cases found : present = key
      · subst found
        rw [putEntry, if_pos rfl, lookup_cons_ite, lookup_cons_ite]
        split <;> rfl
      · rw [putEntry, if_neg found, lookup_cons_ite, lookup_cons_ite, inner]
        by_cases first : name = present
        · subst first
          simp [found]
        · simp [first]

/-- The entries that were put last are found first. -/
theorem lookup_putEntries {more : List (String × α)} (distinct : (more.map (·.1)).Nodup)
    (entries : List (String × α)) (name : String) :
    (putEntries entries more).lookup name = (more.lookup name).or (entries.lookup name) := by
  induction more generalizing entries with
  | nil => rfl
  | cons entry rest inner =>
      obtain ⟨key, value⟩ := entry
      obtain ⟨new, distinctRest⟩ := List.nodup_cons.mp distinct
      rw [putEntries_cons, inner distinctRest, lookup_putEntry, lookup_cons_ite]
      by_cases same : name = key
      · subst same
        have absent : rest.lookup name = none := by
          apply List.lookup_eq_none_iff.mpr
          intro entry among
          apply bne_iff_ne.mpr
          rintro rfl
          exact new (List.mem_map.mpr ⟨entry, among, rfl⟩)
        simp [absent]
      · simp [same]

/-! ## Keys -/

theorem map_fst_putEntry (entries : List (String × α)) (key : String) (value : α) :
    (putEntry entries key value).map (·.1) =
      if key ∈ entries.map (·.1) then entries.map (·.1) else entries.map (·.1) ++ [key] := by
  induction entries with
  | nil => rfl
  | cons entry rest inner =>
      obtain ⟨present, old⟩ := entry
      by_cases found : present = key
      · simp [putEntry, found]
      · rw [putEntry, if_neg found, List.map_cons, inner]
        by_cases later : key ∈ rest.map (·.1)
        · simp [later]
        · simp [later, Ne.symm found]

theorem nodup_putEntry {entries : List (String × α)} (distinct : (entries.map (·.1)).Nodup)
    (key : String) (value : α) : ((putEntry entries key value).map (·.1)).Nodup := by
  rw [map_fst_putEntry]
  split
  · exact distinct
  · next absent =>
      apply List.nodup_append.mpr
      refine ⟨distinct, List.pairwise_singleton _ key, ?_⟩
      intro name among other isKey same
      rw [List.mem_singleton.mp isKey] at same
      exact absent (same ▸ among)

theorem nodup_putEntries {entries : List (String × α)} (distinct : (entries.map (·.1)).Nodup)
    (more : List (String × α)) : ((putEntries entries more).map (·.1)).Nodup := by
  induction more generalizing entries with
  | nil => exact distinct
  | cons entry rest inner => exact inner (nodup_putEntry distinct entry.1 entry.2)

/-! ## Putting is associative -/

theorem putEntry_putEntry_self (entries : List (String × α)) (key : String) (old value : α) :
    putEntry (putEntry entries key old) key value = putEntry entries key value := by
  induction entries with
  | nil => simp [putEntry]
  | cons entry rest inner =>
      by_cases found : entry.1 = key
      · simp [putEntry, found]
      · simp [putEntry, found, inner]

/-- An entry that is present keeps its position, whatever is put besides. -/
theorem putEntry_comm {entries : List (String × α)} {key other : String}
    (present : key ∈ entries.map (·.1)) (different : other ≠ key) (value content : α) :
    putEntry (putEntry entries other content) key value =
      putEntry (putEntry entries key value) other content := by
  induction entries with
  | nil => cases present
  | cons entry rest inner =>
      obtain ⟨first, old⟩ := entry
      by_cases isKey : first = key
      · subst isKey
        simp [putEntry, Ne.symm different]
      · have later : key ∈ rest.map (·.1) := by
          rcases List.mem_cons.mp present with here | later
          · exact absurd here.symm isKey
          · exact later
        by_cases isOther : first = other
        · subst isOther
          simp [putEntry, isKey]
        · simp [putEntry, isKey, isOther, inner later]

theorem putEntry_putEntries {entries more : List (String × α)} {key : String}
    (present : key ∈ entries.map (·.1)) (absent : key ∉ more.map (·.1)) (value : α) :
    putEntry (putEntries entries more) key value =
      putEntries (putEntry entries key value) more := by
  induction more generalizing entries with
  | nil => rfl
  | cons entry rest inner =>
      rw [List.map_cons, List.mem_cons, not_or] at absent
      have kept : key ∈ (putEntry entries entry.1 entry.2).map (·.1) := by
        rw [map_fst_putEntry]
        split
        · exact present
        · exact List.mem_append_left _ present
      rw [putEntries_cons, putEntries_cons, inner kept absent.2,
        putEntry_comm present (Ne.symm absent.1)]

theorem putEntries_putEntry {middle : List (String × α)}
    (distinct : (middle.map (·.1)).Nodup) (lower : List (String × α)) (key : String)
    (value : α) :
    putEntries lower (putEntry middle key value) =
      putEntry (putEntries lower middle) key value := by
  induction middle generalizing lower with
  | nil => rfl
  | cons entry rest inner =>
      obtain ⟨present, old⟩ := entry
      obtain ⟨new, distinctRest⟩ := List.nodup_cons.mp distinct
      by_cases found : present = key
      · subst found
        have put : present ∈ (putEntry lower present old).map (·.1) := by
          rw [map_fst_putEntry]
          split
          · assumption
          · simp
        rw [putEntry, if_pos rfl, putEntries_cons, putEntries_cons,
          putEntry_putEntries put new, putEntry_putEntry_self]
      · rw [putEntry, if_neg found, putEntries_cons, putEntries_cons, inner distinctRest]

theorem putEntries_putEntries {middle : List (String × α)}
    (distinct : (middle.map (·.1)).Nodup) (lower upper : List (String × α)) :
    putEntries lower (putEntries middle upper) = putEntries (putEntries lower middle) upper := by
  induction upper generalizing middle with
  | nil => rfl
  | cons entry rest inner =>
      rw [putEntries_cons, putEntries_cons, inner (nodup_putEntry distinct _ _),
        putEntries_putEntry distinct]

end Pipewright
