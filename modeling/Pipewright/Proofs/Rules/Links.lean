import Pipewright.Rules.Derivation

/-!
# Links of a rule table

A wrapping rule links its property to the field that scalars are wrapped under,
and the field may have a rule of its own.  Cutting loops leaves a table in which
following links from any property comes to an end: each start is cut loose once,
and removing further rules only shortens what is left to follow.
-/

namespace Pipewright

namespace RuleTable

/-- Following links from a property comes, after finitely many steps, to a
property without one. -/
inductive Ends (table : RuleTable) : String → Prop where
  | stop {property : String} :
      table.wrapField? property = none → Ends table property
  | step {property field : String} :
      table.wrapField? property = some field →
      Ends table field → Ends table property

/-- The fields entered on the way from a property to the last one reached. -/
inductive LinkPath (table : RuleTable) : String → List String → String → Prop where
  | here (property : String) : LinkPath table property [] property
  | step {property field last : String} {fields : List String} :
      table.wrapField? property = some field →
      LinkPath table field fields last →
      LinkPath table property (field :: fields) last

theorem wrapField?_eq_some_iff {table : RuleTable} {property field : String} :
    table.wrapField? property = some field ↔
      table.get? property = some (.wrapInObject field) := by
  unfold wrapField?
  cases table.get? property with
  | none => simp
  | some rule => cases rule <;> simp

/-- Every link of the smaller table is one of the larger table. -/
def LinksBelow (small large : RuleTable) : Prop :=
  ∀ property field, small.wrapField? property = some field →
    large.wrapField? property = some field

theorem LinksBelow.refl (table : RuleTable) : LinksBelow table table :=
  fun _ _ linked => linked

theorem LinksBelow.trans {small middle large : RuleTable}
    (lower : LinksBelow small middle) (upper : LinksBelow middle large) :
    LinksBelow small large :=
  fun property field linked => upper property field (lower property field linked)

/-- With fewer links, following them still ends. -/
theorem Ends.mono {small large : RuleTable} {property : String}
    (below : LinksBelow small large) (ends : large.Ends property) :
    small.Ends property := by
  induction ends with
  | @stop property unlinked =>
      cases linked : small.wrapField? property with
      | none => exact .stop linked
      | some field =>
          have same := below property field linked
          rw [unlinked] at same
          cases same
  | @step property field linkedLarge _ inner =>
      cases linked : small.wrapField? property with
      | none => exact .stop linked
      | some other =>
          have same := below property other linked
          rw [linkedLarge] at same
          cases same
          exact .step linked inner

/-! ## Removing rules -/

private theorem lookup_filter_ne (entries : List (String × Rule)) (removed property : String) :
    (entries.filter fun entry => entry.1 != removed).lookup property =
      if property = removed then none else entries.lookup property := by
  induction entries with
  | nil => simp
  | cons entry rest inner =>
      obtain ⟨name, rule⟩ := entry
      by_cases kept : name = removed
      · subst kept
        rw [List.filter_cons_of_neg (by simp), inner]
        by_cases asked : property = name
        · rw [if_pos asked, if_pos asked]
        · have test : (property == name) = false := beq_eq_false_iff_ne.mpr asked
          rw [if_neg asked, if_neg asked, List.lookup_cons, test]
      · rw [List.filter_cons_of_pos (by simpa using kept)]
        by_cases asked : property = name
        · subst asked
          rw [List.lookup_cons_self, List.lookup_cons_self, if_neg kept]
        · have test : (property == name) = false := beq_eq_false_iff_ne.mpr asked
          rw [List.lookup_cons, List.lookup_cons, test]
          exact inner

theorem get?_erase (table : RuleTable) (removed property : String) :
    (table.erase removed).get? property =
      if property = removed then none else table.get? property :=
  lookup_filter_ne table.entries removed property

theorem wrapField?_erase_self (table : RuleTable) (removed : String) :
    (table.erase removed).wrapField? removed = none := by
  simp [wrapField?, get?_erase]

theorem erase_linksBelow (table : RuleTable) (removed : String) :
    LinksBelow (table.erase removed) table := by
  intro property field linked
  unfold wrapField? at linked ⊢
  rw [get?_erase] at linked
  split at linked
  · next found =>
      by_cases same : property = removed
      · simp [same] at found
      · rw [if_neg same] at found
        rw [found]
        exact linked
  · cases linked

/-! ## Cutting loops -/

theorem cutFrom_linksBelow (table : RuleTable) (visited : List String) (current : String) :
    LinksBelow (table.cutFrom visited current) table := by
  fun_induction cutFrom table visited current with
  | case1 => exact LinksBelow.refl table
  | case2 => exact erase_linksBelow table _
  | case3 _ _ _ _ _ inner => exact inner

/-- After cutting from a property, following links from it ends.  Each turn either
cuts the property loose or goes on from its field, whose links then end. -/
theorem cutFrom_ends (table : RuleTable) (visited : List String) (current : String) :
    (table.cutFrom visited current).Ends current := by
  fun_induction cutFrom table visited current with
  | case1 _ _ unlinked => exact .stop unlinked
  | case2 visited current => exact .stop (wrapField?_erase_self table current)
  | case3 visited current field linked _ inner =>
      cases kept : (table.cutFrom (visited ++ [field]) field).wrapField? current with
      | none => exact .stop kept
      | some other =>
          have same := cutFrom_linksBelow table (visited ++ [field]) field current other kept
          rw [linked] at same
          cases same
          exact .step kept inner

private theorem foldl_cutFrom_ends (names : List String) (table : RuleTable) :
    LinksBelow (names.foldl (fun table name => table.cutFrom [name] name) table) table ∧
      ∀ name ∈ names,
        (names.foldl (fun table name => table.cutFrom [name] name) table).Ends name := by
  induction names generalizing table with
  | nil => exact ⟨LinksBelow.refl table, fun name member => nomatch member⟩
  | cons first rest inner =>
      obtain ⟨below, restEnds⟩ := inner (table.cutFrom [first] first)
      rw [List.foldl_cons]
      refine ⟨below.trans (cutFrom_linksBelow table [first] first), ?_⟩
      intro name member
      rcases List.mem_cons.mp member with same | later
      · subst same
        exact (cutFrom_ends table [name] name).mono below
      · exact restEnds name later

theorem cutLoops_linksBelow (table : RuleTable) : LinksBelow table.cutLoops table :=
  (foldl_cutFrom_ends table.names table).1

private theorem get?_eq_none_of_not_mem_names {table : RuleTable} {property : String}
    (absent : property ∉ table.names) : table.get? property = none := by
  unfold get?
  rw [List.lookup_eq_none_iff]
  intro entry member
  have different : property ≠ entry.1 := by
    intro same
    exact absent (List.mem_map.mpr ⟨entry, member, same.symm⟩)
  simpa using different

/-- In a table without loops every property's links end. -/
theorem cutLoops_ends (table : RuleTable) (property : String) :
    table.cutLoops.Ends property := by
  by_cases named : property ∈ table.names
  · exact (foldl_cutFrom_ends table.names table).2 property named
  · have unlinked : table.wrapField? property = none := by
      simp [wrapField?, get?_eq_none_of_not_mem_names named]
    exact (Ends.stop unlinked).mono (cutLoops_linksBelow table)

/-! ## Paths of links -/

theorem Ends.exists_path {table : RuleTable} {property : String}
    (ends : table.Ends property) :
    ∃ fields last, table.LinkPath property fields last ∧ table.wrapField? last = none := by
  induction ends with
  | @stop property unlinked => exact ⟨[], property, .here property, unlinked⟩
  | @step property field linked _ inner =>
      obtain ⟨fields, last, path, unlinked⟩ := inner
      exact ⟨field :: fields, last, .step linked path, unlinked⟩

/-- Links lead from a property to a last one in only one way. -/
theorem LinkPath.unique {table : RuleTable} {property last last' : String}
    {fields fields' : List String}
    (path : table.LinkPath property fields last) (unlinked : table.wrapField? last = none)
    (path' : table.LinkPath property fields' last')
    (unlinked' : table.wrapField? last' = none) : fields = fields' := by
  induction path generalizing fields' with
  | here property =>
      cases path' with
      | here => rfl
      | step linked _ =>
          rw [unlinked] at linked
          cases linked
  | step linked _ inner =>
      cases path' with
      | here =>
          rw [unlinked'] at linked
          cases linked
      | step linked' rest' =>
          rw [linked] at linked'
          cases linked'
          rw [inner unlinked rest']

/-- From a field on a path the rest of the path leads on. -/
theorem LinkPath.from_mem {table : RuleTable} {property last field : String}
    {fields : List String} (path : table.LinkPath property fields last)
    (member : field ∈ fields) :
    ∃ front back, fields = front ++ field :: back ∧ table.LinkPath field back last := by
  induction path with
  | here => cases member
  | @step property next last fields linked rest inner =>
      rcases List.mem_cons.mp member with same | later
      · subst same
        exact ⟨[], fields, rfl, rest⟩
      · obtain ⟨front, back, split, onward⟩ := inner later
        exact ⟨next :: front, back, by rw [split, List.cons_append], onward⟩

/-- A path that ends visits nothing twice: from a place visited again the path
would have two lengths. -/
theorem LinkPath.nodup {table : RuleTable} {property last : String} {fields : List String}
    (path : table.LinkPath property fields last) (unlinked : table.wrapField? last = none) :
    (property :: fields).Nodup := by
  induction path with
  | here => simp
  | @step property field last fields linked rest inner =>
      refine List.nodup_cons.mpr ⟨?_, inner unlinked⟩
      intro again
      have whole : table.LinkPath property (field :: fields) last := .step linked rest
      obtain ⟨front, back, split, onward⟩ := whole.from_mem again
      have same := onward.unique unlinked whole unlinked
      rw [same] at split
      have lengths := congrArg List.length split
      simp only [List.length_append, List.length_cons] at lengths
      omega

theorem LinkPath.subset_wrapFields {table : RuleTable} {property last : String}
    {fields : List String} (path : table.LinkPath property fields last) :
    fields ⊆ table.wrapFields := by
  induction path with
  | here => exact List.nil_subset _
  | step linked _ inner =>
      exact List.cons_subset.mpr ⟨mem_wrapFields_of_wrapField? linked, inner⟩

/-- A path that ends is no longer than the table has wrapping rules. -/
theorem LinkPath.length_le {table : RuleTable} {property last : String} {fields : List String}
    (path : table.LinkPath property fields last) (unlinked : table.wrapField? last = none) :
    fields.length ≤ table.wrapFields.length :=
  (List.nodup_cons.mp (path.nodup unlinked)).2.length_le_of_subset path.subset_wrapFields

end RuleTable

/-- In the rules derived from a schema every property's links end. -/
theorem Schema.deriveRules_ends (schema : Schema) (wrapperFields : List String)
    (property : String) : (schema.deriveRules wrapperFields).Ends property :=
  RuleTable.cutLoops_ends (schema.scannedRules wrapperFields) property

end Pipewright
