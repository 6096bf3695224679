import Pipewright.Proofs.Schema.Grammar
import Pipewright.Proofs.Schema.Layers
import Pipewright.Proofs.Schema.Subnodes

/-!
# Names of properties

The tables of a document list every key once, so every node of a schema that is loaded from it
names each of its properties once.
-/

namespace Pipewright

/-- Every node that the form describes names each property once, and so do those of its
definitions. -/
structure Form.NamesDistinct (form : Form) : Prop where
  node : form.toNode.Throughout Node.NamesDistinct
  definition : ∀ entry ∈ Schema.definitionsOfForm form, entry.2.Throughout Node.NamesDistinct

/-- The properties are named once each, and the forms under all keywords have distinct names. -/
structure KeywordValues.NamesDistinct (values : KeywordValues Form) : Prop where
  names : (values.properties.map (·.1)).Nodup
  properties : ∀ entry ∈ values.properties, entry.2.NamesDistinct
  patternProperties : ∀ entry ∈ values.patternProperties, entry.2.NamesDistinct
  additional : ∀ form ∈ values.additional, form.NamesDistinct
  items : ∀ form, values.items = .single form → form.NamesDistinct
  oneOf : ∀ form ∈ values.oneOf, form.NamesDistinct
  anyOf : ∀ form ∈ values.anyOf, form.NamesDistinct
  allOf : ∀ form ∈ values.allOf, form.NamesDistinct
  definitions : ∀ entry ∈ values.definitions, entry.2.NamesDistinct
  localDefinitions : ∀ entry ∈ values.localDefinitions, entry.2.NamesDistinct

namespace Form

/-! ## From forms to nodes -/

theorem toTable_eq_map (table : List (String × Form)) :
    toTable table = table.map fun entry => (entry.1, entry.2.toNode) := by
  induction table with
  | nil => rfl
  | cons entry rest inner => rw [toTable, inner, List.map_cons]

theorem exists_of_mem_toNodes {forms : List Form} {node : Node} (listed : node ∈ toNodes forms) :
    ∃ form ∈ forms, form.toNode = node := by
  induction forms with
  | nil => cases listed
  | cons form rest inner =>
      rcases List.mem_cons.mp listed with here | later
      · exact ⟨form, List.mem_cons_self, here.symm⟩
      · obtain ⟨form', among, same⟩ := inner later
        exact ⟨form', List.mem_cons_of_mem _ among, same⟩

theorem exists_of_mem_toTable {table : List (String × Form)} {node : Node}
    (listed : node ∈ (toTable table).map (·.2)) : ∃ entry ∈ table, entry.2.toNode = node := by
  rw [toTable_eq_map, List.map_map] at listed
  exact List.mem_map.mp listed

theorem exists_of_mem_toPatterns {table : List (String × Form)} {node : Node}
    (listed : node ∈ (toPatterns table).map (·.2)) : ∃ entry ∈ table, entry.2.toNode = node := by
  induction table with
  | nil => cases listed
  | cons entry rest inner =>
      have later (listed : node ∈ (toPatterns rest).map (·.2)) :
          ∃ entry' ∈ entry :: rest, entry'.2.toNode = node := by
        obtain ⟨entry', among, same⟩ := inner listed
        exact ⟨entry', List.mem_cons_of_mem _ among, same⟩
      rw [toPatterns] at listed
      split at listed
      · rcases List.mem_cons.mp listed with here | further
        · exact ⟨entry, List.mem_cons_self, here.symm⟩
        · exact later further
      · exact later listed

theorem exists_of_mem_toAdditional {said : Option Form} {node : Node}
    (listed : node ∈ (toAdditional said).toList) : ∃ form ∈ said, form.toNode = node := by
  unfold toAdditional at listed
  split at listed
  · cases listed
  · cases listed
  · cases listed
  · exact ⟨_, rfl, (List.mem_singleton.mp listed).symm⟩

theorem exists_of_mem_toItems {described : ItemsForm Form} {node : Node}
    (listed : node ∈ (toItems described).toList) :
    ∃ form, described = .single form ∧ form.toNode = node := by
  cases described with
  | single form => exact ⟨form, rfl, (List.mem_singleton.mp listed).symm⟩
  | tuple forms => cases listed
  | absent => cases listed

/-- The nodes directly below that of some keywords are described by forms under them. -/
theorem throughout_of_mem_children {values : KeywordValues Form}
    (distinct : values.NamesDistinct) {child : Node}
    (below : child ∈ (Form.keywords values).toNode.children) :
    child.Throughout Node.NamesDistinct := by
  obtain ⟨types, reference, oneOf, anyOf, allOf, properties, patternProperties, additional,
    items, enumValues, constValue, required, definitions, localDefinitions⟩ := values
  simp only [toNode, Node.children, List.mem_append] at below
  rcases below with (((((property | pattern) | further) | element) | one) | other) | branch
  · obtain ⟨entry, among, rfl⟩ := exists_of_mem_toTable property
    exact (distinct.properties entry among).node
  · obtain ⟨entry, among, rfl⟩ := exists_of_mem_toPatterns pattern
    exact (distinct.patternProperties entry among).node
  · obtain ⟨form, said, rfl⟩ := exists_of_mem_toAdditional further
    exact (distinct.additional form said).node
  · obtain ⟨form, described, rfl⟩ := exists_of_mem_toItems element
    exact (distinct.items form described).node
  · obtain ⟨form, among, rfl⟩ := exists_of_mem_toNodes one
    exact (distinct.oneOf form among).node
  · obtain ⟨form, among, rfl⟩ := exists_of_mem_toNodes other
    exact (distinct.anyOf form among).node
  · obtain ⟨form, among, rfl⟩ := exists_of_mem_toNodes branch
    exact (distinct.allOf form among).node

theorem throughout_of_mem_definitionsOf {section_ : String} {table : List (String × Form)}
    (distinct : ∀ entry ∈ table, entry.2.NamesDistinct) {definition : String × Node}
    (listed : definition ∈ Schema.definitionsOf section_ table) :
    definition.2.Throughout Node.NamesDistinct := by
  obtain ⟨entry, among, rfl⟩ := List.mem_map.mp listed
  exact (distinct entry among).node

theorem NamesDistinct.keywords {values : KeywordValues Form} (distinct : values.NamesDistinct) :
    (Form.keywords values).NamesDistinct := by
  have names : (Form.keywords values).toNode.NamesDistinct := by
    have listed := distinct.names
    obtain ⟨types, reference, oneOf, anyOf, allOf, properties, patternProperties, additional,
      items, enumValues, constValue, required, definitions, localDefinitions⟩ := values
    rw [Node.NamesDistinct, toNode, toTable_eq_map, List.map_map]
    exact listed
  refine ⟨Node.throughout_iff.mpr ⟨names, fun _ => throughout_of_mem_children distinct⟩, ?_⟩
  intro definition listed
  rcases List.mem_append.mp listed with shared | inner
  · exact throughout_of_mem_definitionsOf distinct.definitions shared
  · exact throughout_of_mem_definitionsOf distinct.localDefinitions inner

theorem NamesDistinct.boolean (value : Bool) : (Form.boolean value).NamesDistinct := by
  have names : (Form.boolean value).toNode.NamesDistinct := by
    cases value <;> exact List.nodup_nil
  have childless : (Form.boolean value).toNode.children = [] := by cases value <;> rfl
  refine ⟨Node.throughout_iff.mpr ⟨names, ?_⟩, nofun⟩
  rw [childless]
  exact nofun

/-! ## From documents to forms -/

/-- Whatever the value is read as has distinct names. -/
structure Reading.NamesDistinct (reading : Reading) : Prop where
  form : ∀ form ∈ reading.form?, form.NamesDistinct
  forms : ∀ forms ∈ reading.forms?, ∀ form ∈ forms, form.NamesDistinct
  table : ∀ table ∈ reading.table?,
    (table.map (·.1)).Nodup ∧ ∀ entry ∈ table, entry.2.NamesDistinct

theorem eq_of_optional? {α : Type} {source : Json} {read result : Option α}
    (found : optional? source read = some result) : result = none ∨ read = result := by
  unfold optional? at found
  split at found
  · exact .inl (Option.some.inj found).symm
  · obtain ⟨value, isRead, rfl⟩ := Option.map_eq_some_iff.mp found
    exact .inr isRead

theorem form?_of_items? {reading : Reading} {form : Form}
    (found : items? reading = some (.single form)) : reading.form? = some form := by
  unfold items? at found
  split at found
  · next form' isForm =>
      cases found
      exact isForm
  · obtain ⟨forms, -, tuple⟩ := Option.map_eq_some_iff.mp found
    cases tuple

/-- Setting a keyword keeps the names distinct. -/
theorem setKeyword?_namesDistinct {values values' : KeywordValues Form} {keyword : Keyword}
    {reading : Reading} (distinct : reading.NamesDistinct) (kept : values.NamesDistinct)
    (set : setKeyword? values keyword reading = some values') : values'.NamesDistinct := by
  cases keyword with
  | oneOf =>
      obtain ⟨forms, read, rfl⟩ := Option.map_eq_some_iff.mp set
      exact { kept with oneOf := distinct.forms forms read }
  | anyOf =>
      obtain ⟨forms, read, rfl⟩ := Option.map_eq_some_iff.mp set
      exact { kept with anyOf := distinct.forms forms read }
  | allOf =>
      obtain ⟨forms, read, rfl⟩ := Option.map_eq_some_iff.mp set
      exact { kept with allOf := distinct.forms forms read }
  | properties =>
      obtain ⟨table, read, rfl⟩ := Option.map_eq_some_iff.mp set
      obtain ⟨names, entries⟩ := distinct.table table read
      exact { kept with names := names, properties := entries }
  | patternProperties =>
      obtain ⟨table, read, rfl⟩ := Option.map_eq_some_iff.mp set
      exact { kept with patternProperties := (distinct.table table read).2 }
  | definitions =>
      obtain ⟨table, read, rfl⟩ := Option.map_eq_some_iff.mp set
      exact { kept with definitions := (distinct.table table read).2 }
  | localDefinitions =>
      obtain ⟨table, read, rfl⟩ := Option.map_eq_some_iff.mp set
      exact { kept with localDefinitions := (distinct.table table read).2 }
  | additionalProperties =>
      obtain ⟨said, read, rfl⟩ := Option.map_eq_some_iff.mp set
      refine { kept with additional := fun form isSaid => ?_ }
      rcases eq_of_optional? read with rfl | isRead
      · cases isSaid
      · exact distinct.form form (isRead.trans isSaid)
  | items =>
      obtain ⟨described, read, rfl⟩ := Option.map_eq_some_iff.mp set
      refine { kept with items := fun form isSingle => ?_ }
      cases described with
      | none => cases isSingle
      | some described =>
          obtain rfl : described = .single form := isSingle
          rcases eq_of_optional? read with absent | isRead
          · cases absent
          · exact distinct.form form (form?_of_items? isRead)
  | enumeration =>
      simp only [setKeyword?] at set
      split at set
      · cases set
        exact { kept with }
      · cases set
        exact { kept with }
      · cases set
  | constant =>
      cases set
      exact { kept with }
  | types | reference | required =>
      obtain ⟨_, -, rfl⟩ := Option.map_eq_some_iff.mp set
      exact { kept with }

theorem namesDistinct_absent : KeywordValues.NamesDistinct .absent :=
  ⟨List.nodup_nil, nofun, nofun, nofun, nofun, nofun, nofun, nofun, nofun, nofun⟩

/-- What each step keeps all steps keep. -/
theorem foldlM_keeps {α β : Type} {step : α → β → Option α} {keeps : α → Prop} {items : List β}
    (steps : ∀ item ∈ items, ∀ {state next : α}, keeps state → step state item = some next →
      keeps next)
    {state last : α} (kept : keeps state) (folded : items.foldlM step state = some last) :
    keeps last := by
  induction items generalizing state with
  | nil =>
      cases folded
      exact kept
  | cons item rest inner =>
      obtain ⟨first, others⟩ := List.forall_mem_cons.mp steps
      rw [List.foldlM_cons] at folded
      obtain ⟨next, stepped, further⟩ := Option.bind_eq_some_iff.mp folded
      exact inner others (first kept stepped) further

/-- What holds of each result that is read holds of all of them. -/
theorem forall_of_mapM {α β : Type} {read : α → Option β} {holds : β → Prop} {items : List α}
    (each : ∀ item ∈ items, ∀ result ∈ read item, holds result) {results : List β}
    (made : items.mapM read = some results) : ∀ result ∈ results, holds result := by
  induction items generalizing results with
  | nil =>
      cases made
      exact List.forall_mem_nil _
  | cons item rest inner =>
      obtain ⟨first, others⟩ := List.forall_mem_cons.mp each
      rw [List.mapM_cons] at made
      obtain ⟨result, readFirst, readRest⟩ := Option.bind_eq_some_iff.mp made
      obtain ⟨more, readMore, same⟩ := Option.bind_eq_some_iff.mp readRest
      cases same
      exact List.forall_mem_cons.mpr ⟨first result readFirst, inner others readMore⟩

/-- A table is read with the keys that it is written with. -/
theorem map_fst_of_mapM {members : List (String × Reading)} {table : List (String × Form)}
    (made : members.mapM (fun member => member.2.form?.map fun form => (member.1, form)) =
      some table) : table.map (·.1) = members.map (·.1) := by
  induction members generalizing table with
  | nil =>
      cases made
      rfl
  | cons member rest inner =>
      rw [List.mapM_cons] at made
      obtain ⟨entry, readFirst, readRest⟩ := Option.bind_eq_some_iff.mp made
      obtain ⟨more, readMore, same⟩ := Option.bind_eq_some_iff.mp readRest
      obtain ⟨form, -, rfl⟩ := Option.map_eq_some_iff.mp readFirst
      cases same
      rw [List.map_cons, List.map_cons, inner readMore]

theorem ofMembers?_namesDistinct {members : List (String × Reading)}
    (distinct : ∀ member ∈ members, member.2.NamesDistinct) :
    ∀ form ∈ ofMembers? members, form.NamesDistinct := by
  intro form made
  rw [ofMembers?_eq] at made
  obtain ⟨values, folded, rfl⟩ := Option.map_eq_some_iff.mp made
  refine .keywords (foldlM_keeps (fun member among values next kept set => ?_)
    namesDistinct_absent folded)
  unfold setMember? at set
  split at set
  · exact setKeyword?_namesDistinct (distinct member among) kept set
  · cases set
    exact kept

theorem ofItems?_namesDistinct {items : List Reading}
    (distinct : ∀ item ∈ items, item.NamesDistinct) :
    ∀ form ∈ ofItems? items, form.NamesDistinct := by
  intro form made
  rw [ofItems?_eq] at made
  split at made
  · cases made
  · obtain ⟨values, folded, rfl⟩ := Option.map_eq_some_iff.mp made
    refine .keywords (foldlM_keeps (fun place among values next kept set => ?_)
      namesDistinct_absent folded)
    exact setKeyword?_namesDistinct (distinct place.2 (List.of_mem_zip among).2) kept set

theorem Reading.NamesDistinct.array {items : List Json}
    (distinct : ∀ item ∈ items, (reading item).NamesDistinct) :
    (reading (.array items)).NamesDistinct := by
  have inner : ∀ item ∈ readings items, item.NamesDistinct := by
    rw [readings_eq_map]
    exact List.forall_mem_map.mpr distinct
  refine ⟨?_, fun forms made => ?_, nofun⟩
  · exact ofItems?_namesDistinct inner
  · exact forall_of_mapM (fun item among => (inner item among).form) made

theorem Reading.NamesDistinct.object {members : Members} (keys : (members.map (·.1)).Nodup)
    (distinct : ∀ member ∈ members, (reading member.2).NamesDistinct) :
    (reading (.object members)).NamesDistinct := by
  have inner : ∀ member ∈ memberReadings members, member.2.NamesDistinct := by
    rw [memberReadings_eq_map]
    exact List.forall_mem_map.mpr distinct
  refine ⟨?_, nofun, fun table made => ⟨?_, forall_of_mapM ?_ made⟩⟩
  · exact ofMembers?_namesDistinct inner
  · rw [map_fst_of_mapM made, memberReadings_eq_map, List.map_map]
    exact keys
  · intro member among entry isRead
    obtain ⟨form, isForm, rfl⟩ := Option.map_eq_some_iff.mp isRead
    exact (inner member among).form form isForm

mutual

/-- What is read from a document whose objects list each key once has distinct names. -/
theorem namesDistinct_reading (value : Json) (distinct : value.KeysDistinct) :
    (reading value).NamesDistinct := by
  match value with
  | .array items => exact .array (namesDistinct_readings items distinct)
  | .object members => exact .object distinct.1 (namesDistinct_memberReadings members distinct.2)
  | .boolean value =>
      refine ⟨fun form isForm => ?_, nofun, nofun⟩
      cases isForm
      exact .boolean value
  | .null | .number _ | .string _ => exact ⟨nofun, nofun, nofun⟩

theorem namesDistinct_readings (items : List Json) (distinct : Json.ItemKeysDistinct items) :
    ∀ item ∈ items, (reading item).NamesDistinct := by
  match items with
  | [] => exact List.forall_mem_nil _
  | item :: rest =>
      exact List.forall_mem_cons.mpr
        ⟨namesDistinct_reading item distinct.1, namesDistinct_readings rest distinct.2⟩

theorem namesDistinct_memberReadings (members : Members)
    (distinct : Json.MemberKeysDistinct members) :
    ∀ member ∈ members, (reading member.2).NamesDistinct := by
  match members with
  | [] => exact List.forall_mem_nil _
  | (key, value) :: rest =>
      exact List.forall_mem_cons.mpr
        ⟨namesDistinct_reading value distinct.1, namesDistinct_memberReadings rest distinct.2⟩

end

end Form

/-- Every node of a loaded schema names each of its properties once. -/
theorem Schema.namesDistinct_of_load {source : Json} {schema : Schema}
    (distinct : source.KeysDistinct) (loaded : Schema.load source = .ok schema) :
    ∀ node ∈ schema.nodes, node.NamesDistinct := by
  unfold Schema.load at loaded
  split at loaded
  · next form read =>
      cases loaded
      obtain ⟨root, definition⟩ := (Form.namesDistinct_reading source distinct).form form read
      intro node listed
      rcases List.mem_append.mp listed with inRoot | inDefinition
      · exact root node inRoot
      · obtain ⟨entry, among, below⟩ := List.mem_flatMap.mp inDefinition
        exact definition entry among node below
  · cases loaded

end Pipewright
