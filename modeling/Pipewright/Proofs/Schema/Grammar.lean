import Pipewright.Proofs.Schema.Doubles

/-!
# What is accepted as a schema

The grammar of schemas, once as it is documented and once as it is accepted.  A document is
loaded exactly if it is a schema of the accepted grammar.  This has two spellings more: a list
of keyword values is accepted wherever a schema is, and a tag may be the only key of an
object.
-/

namespace Pipewright

/-- Which spellings count. -/
inductive Spelling where
  | documented
  | accepted

namespace Keyword

/-- Does `null` say that the keyword is absent? -/
def mayBeNull : Keyword → Bool
  | .types | .reference | .additionalProperties | .items | .enumeration => true
  | _ => false

/-- Does the keyword hold a list of schemas? -/
def holdsList : Keyword → Bool
  | .oneOf | .anyOf | .allOf => true
  | _ => false

/-- Does the keyword hold a table of schemas? -/
def holdsTable : Keyword → Bool
  | .properties | .patternProperties | .definitions | .localDefinitions => true
  | _ => false

end Keyword

namespace Grammar

/-- A type tag is its name.  Also accepted is an object with the name as only key and `null`
as value. -/
inductive IsTag : Spelling → Json → Prop where
  | name {spelling : Spelling} (tag : PrimitiveType) : IsTag spelling (.string tag.name)
  | key (tag : PrimitiveType) : IsTag .accepted (.object [(tag.name, .null)])

mutual

/-- A schema is a boolean or an object of keywords and other keys.  Also accepted is a list of
the keywords' values in order. -/
inductive IsSchema : Spelling → Json → Prop where
  | boolean {spelling : Spelling} (value : Bool) : IsSchema spelling (.boolean value)
  | object {spelling : Spelling} {members : Members} :
      (∀ member ∈ members, ∀ keyword : Keyword, keyword.name = member.1 →
        Holds spelling keyword member.2) →
      IsSchema spelling (.object members)
  | list {items : List Json} : items.length ≤ Keyword.all.length →
      (∀ place ∈ Keyword.all.zip items, Holds .accepted place.1 place.2) →
      IsSchema .accepted (.array items)

/-- What a keyword may hold. -/
inductive Holds : Spelling → Keyword → Json → Prop where
  | absent {spelling : Spelling} {keyword : Keyword} : keyword.mayBeNull = true →
      Holds spelling keyword .null
  | tag {spelling : Spelling} {value : Json} : IsTag spelling value →
      Holds spelling .types value
  | tags {spelling : Spelling} {items : List Json} : (∀ item ∈ items, IsTag spelling item) →
      Holds spelling .types (.array items)
  | reference {spelling : Spelling} (text : String) : Holds spelling .reference (.string text)
  | list {spelling : Spelling} {keyword : Keyword} {items : List Json} :
      keyword.holdsList = true → (∀ item ∈ items, IsSchema spelling item) →
      Holds spelling keyword (.array items)
  | table {spelling : Spelling} {keyword : Keyword} {members : Members} :
      keyword.holdsTable = true → (∀ member ∈ members, IsSchema spelling member.2) →
      Holds spelling keyword (.object members)
  | additional {spelling : Spelling} {value : Json} : IsSchema spelling value →
      Holds spelling .additionalProperties value
  | items {spelling : Spelling} {value : Json} : IsSchema spelling value →
      Holds spelling .items value
  | tuple {spelling : Spelling} {items : List Json} : (∀ item ∈ items, IsSchema spelling item) →
      Holds spelling .items (.array items)
  | enumeration {spelling : Spelling} (items : List Json) :
      Holds spelling .enumeration (.array items)
  | constant {spelling : Spelling} (value : Json) : Holds spelling .constant value
  | required {spelling : Spelling} {items : List Json} :
      (∀ item ∈ items, ∃ text, item = .string text) → Holds spelling .required (.array items)

end

theorem IsTag.accepted {spelling : Spelling} {value : Json} (isTag : IsTag spelling value) :
    IsTag .accepted value := by
  cases isTag with
  | name tag => exact .name tag
  | key tag => exact .key tag

mutual

/-- What is documented is accepted. -/
theorem IsSchema.accepted {spelling : Spelling} {value : Json} :
    IsSchema spelling value → IsSchema .accepted value
  | .boolean value => .boolean value
  | .object holds =>
      .object fun member among keyword named => (holds member among keyword named).accepted
  | .list short holds => .list short holds

theorem Holds.accepted {spelling : Spelling} {keyword : Keyword} {value : Json} :
    Holds spelling keyword value → Holds .accepted keyword value
  | .absent mayBeNull => .absent mayBeNull
  | .tag isTag => .tag isTag.accepted
  | .tags areTags => .tags fun item among => (areTags item among).accepted
  | .reference text => .reference text
  | .list holdsList schemas => .list holdsList fun item among => (schemas item among).accepted
  | .table holdsTable schemas =>
      .table holdsTable fun member among => (schemas member among).accepted
  | .additional isSchema => .additional isSchema.accepted
  | .items isSchema => .items isSchema.accepted
  | .tuple schemas => .tuple fun item among => (schemas item among).accepted
  | .enumeration items => .enumeration items
  | .constant value => .constant value
  | .required texts => .required texts

end

/-! ## What each keyword holds -/

section Inversion

variable {spelling : Spelling} {keyword : Keyword} {value : Json}

theorem holds_types_iff :
    Holds spelling .types value ↔
      value = .null ∨ IsTag spelling value ∨
        ∃ items, value = .array items ∧ ∀ item ∈ items, IsTag spelling item := by
  constructor
  · intro holds
    cases holds with
    | absent => exact .inl rfl
    | tag isTag => exact .inr (.inl isTag)
    | tags areTags => exact .inr (.inr ⟨_, rfl, areTags⟩)
    | list holdsList => cases holdsList
    | table holdsTable => cases holdsTable
  · rintro (rfl | isTag | ⟨items, rfl, areTags⟩)
    · exact .absent rfl
    · exact .tag isTag
    · exact .tags areTags

theorem holds_reference_iff :
    Holds spelling .reference value ↔ value = .null ∨ ∃ text, value = .string text := by
  constructor
  · intro holds
    cases holds with
    | absent => exact .inl rfl
    | reference text => exact .inr ⟨text, rfl⟩
    | list holdsList => cases holdsList
    | table holdsTable => cases holdsTable
  · rintro (rfl | ⟨text, rfl⟩)
    · exact .absent rfl
    · exact .reference text

theorem holds_list_iff (holdsList : keyword.holdsList = true) :
    Holds spelling keyword value ↔
      ∃ items, value = .array items ∧ ∀ item ∈ items, IsSchema spelling item := by
  constructor
  · intro holds
    cases holds with
    | list _ schemas => exact ⟨_, rfl, schemas⟩
    | absent mayBeNull => cases keyword <;> simp [Keyword.mayBeNull, Keyword.holdsList] at *
    | table holdsTable => cases keyword <;> simp [Keyword.holdsTable, Keyword.holdsList] at *
    | _ => cases holdsList
  · rintro ⟨items, rfl, schemas⟩
    exact .list holdsList schemas

theorem holds_table_iff (holdsTable : keyword.holdsTable = true) :
    Holds spelling keyword value ↔
      ∃ members, value = .object members ∧ ∀ member ∈ members, IsSchema spelling member.2 := by
  constructor
  · intro holds
    cases holds with
    | table _ schemas => exact ⟨_, rfl, schemas⟩
    | absent mayBeNull => cases keyword <;> simp [Keyword.mayBeNull, Keyword.holdsTable] at *
    | list holdsList => cases keyword <;> simp [Keyword.holdsTable, Keyword.holdsList] at *
    | _ => cases holdsTable
  · rintro ⟨members, rfl, schemas⟩
    exact .table holdsTable schemas

theorem holds_additionalProperties_iff :
    Holds spelling .additionalProperties value ↔ value = .null ∨ IsSchema spelling value := by
  constructor
  · intro holds
    cases holds with
    | absent => exact .inl rfl
    | additional isSchema => exact .inr isSchema
    | list holdsList => cases holdsList
    | table holdsTable => cases holdsTable
  · rintro (rfl | isSchema)
    · exact .absent rfl
    · exact .additional isSchema

theorem holds_items_iff :
    Holds spelling .items value ↔
      value = .null ∨ IsSchema spelling value ∨
        ∃ items, value = .array items ∧ ∀ item ∈ items, IsSchema spelling item := by
  constructor
  · intro holds
    cases holds with
    | absent => exact .inl rfl
    | items isSchema => exact .inr (.inl isSchema)
    | tuple schemas => exact .inr (.inr ⟨_, rfl, schemas⟩)
    | list holdsList => cases holdsList
    | table holdsTable => cases holdsTable
  · rintro (rfl | isSchema | ⟨items, rfl, schemas⟩)
    · exact .absent rfl
    · exact .items isSchema
    · exact .tuple schemas

theorem holds_enumeration_iff :
    Holds spelling .enumeration value ↔ value = .null ∨ ∃ items, value = .array items := by
  constructor
  · intro holds
    cases holds with
    | absent => exact .inl rfl
    | enumeration items => exact .inr ⟨items, rfl⟩
    | list holdsList => cases holdsList
    | table holdsTable => cases holdsTable
  · rintro (rfl | ⟨items, rfl⟩)
    · exact .absent rfl
    · exact .enumeration items

theorem holds_required_iff :
    Holds spelling .required value ↔
      ∃ items, value = .array items ∧ ∀ item ∈ items, ∃ text, item = .string text := by
  constructor
  · intro holds
    cases holds with
    | absent mayBeNull => cases mayBeNull
    | required texts => exact ⟨_, rfl, texts⟩
    | list holdsList => cases holdsList
    | table holdsTable => cases holdsTable
  · rintro ⟨items, rfl, texts⟩
    exact .required texts

end Inversion

end Grammar

namespace Form

open Grammar

/-! ## Reading lists -/

theorem mapM_isSome {α β : Type} (read : α → Option β) (items : List α) :
    (items.mapM read).isSome = true ↔ ∀ item ∈ items, (read item).isSome = true := by
  induction items with
  | nil => simp
  | cons item rest inner =>
      rw [List.mapM_cons, List.forall_mem_cons, ← inner]
      cases read item with
      | none => simp
      | some first => cases rest.mapM read <;> simp

/-- If it does not depend on the state whether a step succeeds, all steps succeed if each one
does. -/
theorem foldlM_isSome {α β : Type} {step : α → β → Option α} {succeeds : β → Prop}
    {items : List β}
    (steps : ∀ item ∈ items, ∀ state, (step state item).isSome = true ↔ succeeds item)
    (state : α) : (items.foldlM step state).isSome = true ↔ ∀ item ∈ items, succeeds item := by
  induction items generalizing state with
  | nil => simp
  | cons item rest inner =>
      obtain ⟨first, others⟩ := List.forall_mem_cons.mp steps
      rw [List.foldlM_cons, List.forall_mem_cons, ← first state]
      cases step state item with
      | none => simp
      | some next => simp [inner others]

theorem readings_eq_map (items : List Json) : readings items = items.map reading := by
  induction items with
  | nil => rfl
  | cons item rest inner => rw [readings, inner, List.map_cons]

theorem memberReadings_eq_map (members : Members) :
    memberReadings members = members.map fun member => (member.1, reading member.2) := by
  induction members with
  | nil => rfl
  | cons member rest inner =>
      obtain ⟨key, value⟩ := member
      rw [memberReadings, inner, List.map_cons]

/-! ## Keywords -/

theorem ofName?_isSome_iff (name : String) :
    (PrimitiveType.ofName? name).isSome = true ↔ ∃ tag : PrimitiveType, tag.name = name := by
  have all : ∀ tag : PrimitiveType, tag ∈ PrimitiveType.all := by
    intro tag
    cases tag <;> decide
  simp [PrimitiveType.ofName?, List.find?_isSome, all]

theorem tag?_isSome_iff (value : Json) : (tag? value).isSome = true ↔ IsTag .accepted value := by
  constructor
  · intro isSome
    unfold tag? at isSome
    split at isSome
    · obtain ⟨tag, rfl⟩ := (ofName?_isSome_iff _).mp isSome
      exact .name tag
    · obtain ⟨tag, rfl⟩ := (ofName?_isSome_iff _).mp isSome
      exact .key tag
    · cases isSome
  · intro isTag
    cases isTag with
    | name tag => exact (ofName?_isSome_iff _).mpr ⟨tag, rfl⟩
    | key tag => exact (ofName?_isSome_iff _).mpr ⟨tag, rfl⟩

theorem types?_isSome_iff (value : Json) :
    (types? value).isSome = true ↔
      IsTag .accepted value ∨
        ∃ items, value = .array items ∧ ∀ item ∈ items, IsTag .accepted item := by
  have list : ∀ items : List Json, (items.mapM tag?).isSome = true ↔
      ∀ item ∈ items, IsTag .accepted item := by
    intro items
    rw [mapM_isSome]
    exact forall₂_congr fun item _ => tag?_isSome_iff item
  rw [← tag?_isSome_iff]
  unfold types?
  cases tag? value with
  | some tag => simp
  | none => cases value <;> simp [list]

theorem text?_isSome_iff (value : Json) :
    (text? value).isSome = true ↔ ∃ text, value = .string text := by
  cases value <;> simp [text?]

theorem texts?_isSome_iff (value : Json) :
    (texts? value).isSome = true ↔
      ∃ items, value = .array items ∧ ∀ item ∈ items, ∃ text, item = .string text := by
  cases value <;> simp [texts?, mapM_isSome, text?_isSome_iff]

theorem items?_isSome_iff (reading : Reading) :
    (items? reading).isSome = true ↔
      reading.form?.isSome = true ∨ reading.forms?.isSome = true := by
  unfold items?
  cases reading.form? <;> simp

theorem optional?_isSome_iff {α : Type} (source : Json) (read : Option α) :
    (optional? source read).isSome = true ↔ source = .null ∨ read.isSome = true := by
  unfold optional?
  cases source <;> simp

/-- What a value can be read as, by the grammar. -/
structure Recognized (value : Json) : Prop where
  source : (reading value).source = value
  form : (reading value).form?.isSome = true ↔ IsSchema .accepted value
  forms : (reading value).forms?.isSome = true ↔
    ∃ items, value = .array items ∧ ∀ item ∈ items, IsSchema .accepted item
  table : (reading value).table?.isSome = true ↔
    ∃ members, value = .object members ∧ ∀ member ∈ members, IsSchema .accepted member.2

/-- A keyword can be set to what it may hold. -/
theorem Recognized.setKeyword? {value : Json} (recognized : Recognized value)
    (values : KeywordValues Form) (keyword : Keyword) :
    (setKeyword? values keyword (reading value)).isSome = true ↔
      Holds .accepted keyword value := by
  obtain ⟨source, form, forms, table⟩ := recognized
  unfold Form.setKeyword?
  rw [source]
  cases keyword with
  | types => rw [holds_types_iff, Option.isSome_map, optional?_isSome_iff, types?_isSome_iff]
  | reference =>
      rw [holds_reference_iff, Option.isSome_map, optional?_isSome_iff, text?_isSome_iff]
  | oneOf | anyOf | allOf => rw [holds_list_iff rfl, Option.isSome_map, forms]
  | properties | patternProperties | definitions | localDefinitions =>
      rw [holds_table_iff rfl, Option.isSome_map, table]
  | additionalProperties =>
      rw [holds_additionalProperties_iff, Option.isSome_map, optional?_isSome_iff, form]
  | items =>
      rw [holds_items_iff, Option.isSome_map, optional?_isSome_iff, items?_isSome_iff, form, forms]
  | enumeration =>
      rw [holds_enumeration_iff]
      cases value <;> simp
  | constant => exact ⟨fun _ => .constant value, fun _ => rfl⟩
  | required => rw [holds_required_iff, Option.isSome_map, texts?_isSome_iff]

/-! ## Schemas -/

theorem ofName?_eq_some_iff (name : String) (keyword : Keyword) :
    Keyword.ofName? name = some keyword ↔ keyword.name = name := by
  constructor
  · intro found
    have same := List.find?_some found
    exact beq_iff_eq.mp same
  · rintro rfl
    cases keyword <;> decide

theorem keyword_name_injective : Function.Injective Keyword.name := by
  intro keyword other same
  have found := (ofName?_eq_some_iff keyword.name keyword).mpr rfl
  rw [(ofName?_eq_some_iff keyword.name other).mpr same.symm] at found
  exact (Option.some.inj found).symm

theorem setMember?_isSome_iff {key : String} {value : Json} (recognized : Recognized value)
    (values : KeywordValues Form) :
    (setMember? values (key, reading value)).isSome = true ↔
      ∀ keyword : Keyword, keyword.name = key → Holds .accepted keyword value := by
  unfold setMember?
  cases found : Keyword.ofName? key with
  | none =>
      refine ⟨fun _ keyword named => ?_, fun _ => rfl⟩
      rw [(ofName?_eq_some_iff key keyword).mpr named] at found
      cases found
  | some keyword =>
      -- there is only one keyword of that name
      have named := (ofName?_eq_some_iff key keyword).mp found
      rw [recognized.setKeyword? values keyword]
      refine ⟨fun holds other same => ?_, fun all => all keyword named⟩
      rw [(ofName?_eq_some_iff key other).mpr same] at found
      cases found
      exact holds

theorem ofMembers?_isSome_iff {members : Members}
    (recognized : ∀ member ∈ members, Recognized member.2) :
    (ofMembers? (members.map fun member => (member.1, reading member.2))).isSome = true ↔
      IsSchema .accepted (.object members) := by
  have steps : ∀ member ∈ members, ∀ values,
      (setMember? values (member.1, reading member.2)).isSome = true ↔
        ∀ keyword : Keyword, keyword.name = member.1 → Holds .accepted keyword member.2 :=
    fun member among values => setMember?_isSome_iff (recognized member among) values
  rw [ofMembers?_eq, Option.isSome_map, List.foldlM_map, foldlM_isSome steps]
  constructor
  · exact .object
  · intro isSchema
    cases isSchema with
    | object holds => exact holds

theorem ofItems?_isSome_iff {items : List Json} (recognized : ∀ item ∈ items, Recognized item) :
    (ofItems? (items.map reading)).isSome = true ↔ IsSchema .accepted (.array items) := by
  have places : ∀ place ∈ Keyword.all.zip items, ∀ values,
      (setPlace? values (Prod.map id reading place)).isSome = true ↔
        Holds .accepted place.1 place.2 := fun place among values =>
    (recognized place.2 (List.of_mem_zip among).2).setKeyword? values place.1
  rw [ofItems?_eq, List.length_map]
  split
  · next long =>
      refine ⟨nofun, fun isSchema => ?_⟩
      cases isSchema with
      | list short => omega
  · next short =>
      rw [Option.isSome_map, List.zip_map_right, List.foldlM_map, foldlM_isSome places]
      constructor
      · exact .list (Nat.le_of_not_lt short)
      · intro isSchema
        cases isSchema with
        | list _ holds => exact holds

theorem Recognized.array {items : List Json} (inner : ∀ item ∈ items, Recognized item) :
    Recognized (.array items) := by
  have forms : ((items.map reading).mapM Reading.form?).isSome = true ↔
      ∀ item ∈ items, IsSchema .accepted item := by
    rw [mapM_isSome, List.forall_mem_map]
    exact forall₂_congr fun item among => (inner item among).form
  refine ⟨rfl, ?_, ?_, ?_⟩
  · rw [reading, readings_eq_map]
    exact ofItems?_isSome_iff inner
  · rw [reading, readings_eq_map]
    refine forms.trans ⟨fun schemas => ⟨items, rfl, schemas⟩, ?_⟩
    rintro ⟨_, same, schemas⟩
    cases same
    exact schemas
  · rw [reading]
    exact ⟨nofun, nofun⟩

theorem Recognized.object {members : Members} (inner : ∀ member ∈ members, Recognized member.2) :
    Recognized (.object members) := by
  have table : ((members.map fun member => (member.1, reading member.2)).mapM
      fun member : String × Reading => member.2.form?.map fun form => (member.1, form)).isSome =
        true ↔
        ∀ member ∈ members, IsSchema .accepted member.2 := by
    rw [mapM_isSome, List.forall_mem_map]
    refine forall₂_congr fun member among => ?_
    rw [Option.isSome_map]
    exact (inner member among).form
  refine ⟨rfl, ?_, ?_, ?_⟩
  · rw [reading, memberReadings_eq_map]
    exact ofMembers?_isSome_iff inner
  · rw [reading]
    exact ⟨nofun, nofun⟩
  · rw [reading, memberReadings_eq_map]
    refine table.trans ⟨fun schemas => ⟨members, rfl, schemas⟩, ?_⟩
    rintro ⟨_, same, schemas⟩
    cases same
    exact schemas

mutual

/-- Every value is recognized as the grammar says. -/
theorem recognized (value : Json) : Recognized value := by
  match value with
  | .array items => exact .array (recognizedItems items)
  | .object members => exact .object (recognizedMembers members)
  | .boolean value =>
      exact ⟨rfl, ⟨fun _ => .boolean value, fun _ => rfl⟩, ⟨nofun, nofun⟩, nofun, nofun⟩
  | .null | .number _ | .string _ =>
      exact ⟨rfl, ⟨nofun, nofun⟩, ⟨nofun, nofun⟩, nofun, nofun⟩

theorem recognizedItems (items : List Json) : ∀ item ∈ items, Recognized item := by
  match items with
  | [] => exact fun _ among => nomatch among
  | item :: rest => exact List.forall_mem_cons.mpr ⟨recognized item, recognizedItems rest⟩

theorem recognizedMembers (members : Members) : ∀ member ∈ members, Recognized member.2 := by
  match members with
  | [] => exact fun _ among => nomatch among
  | (key, value) :: rest =>
      exact List.forall_mem_cons.mpr ⟨recognized value, recognizedMembers rest⟩

end

end Form

open Grammar

/-- Exactly the schemas of the accepted grammar are loaded, and so all documented ones are. -/
theorem load_iff_isSchema (source : Json) :
    ((∃ schema, Schema.load source = .ok schema) ↔ IsSchema .accepted source) ∧
      (IsSchema .documented source → ∃ schema, Schema.load source = .ok schema) := by
  have loads : (∃ schema, Schema.load source = .ok schema) ↔ IsSchema .accepted source := by
    rw [← (Form.recognized source).form]
    unfold Schema.load Form.read?
    cases (Form.reading source).form? with
    | none => exact ⟨nofun, nofun⟩
    | some form => exact ⟨fun _ => rfl, fun _ => ⟨_, rfl⟩⟩
  exact ⟨loads, fun documented => loads.mpr documented.accepted⟩

/-- Two tags, and a table with a schema that is referred to. -/
theorem load_iff_isSchema_on_tree :
    let source := Json.object [("type", .array [.string "object", .string "null"]),
      ("properties", .object [("next", .object [("$ref", .string "#")])])]
    IsSchema .documented source ∧ ∃ schema, Schema.load source = .ok schema := by
  intro source
  have next : IsSchema .documented (.object [("$ref", .string "#")]) := by
    refine .object fun member among keyword named => ?_
    obtain rfl := List.mem_singleton.mp among
    obtain rfl : keyword = .reference := Form.keyword_name_injective named
    exact .reference "#"
  have types : Holds .documented .types (.array [.string "object", .string "null"]) :=
    .tags (List.forall_mem_cons.mpr ⟨.name .object, List.forall_mem_singleton.mpr (.name .null)⟩)
  have properties : Holds .documented .properties
      (.object [("next", .object [("$ref", .string "#")])]) :=
    .table rfl (List.forall_mem_singleton.mpr next)
  have documented : IsSchema .documented source := by
    refine .object (List.forall_mem_cons.mpr ⟨?_, List.forall_mem_singleton.mpr ?_⟩)
    · intro keyword named
      obtain rfl : keyword = .types := Form.keyword_name_injective named
      exact types
    · intro keyword named
      obtain rfl : keyword = .properties := Form.keyword_name_injective named
      exact properties
  exact ⟨documented, (load_iff_isSchema source).2 documented⟩

/-- A list of a tag where a schema or schemas are expected, and a tag as the key of an object,
are loaded, though they are not documented. -/
theorem load_of_undocumented :
    let listed := Json.object [("items", .array [.string "string"])]
    let keyed := Json.object [("type", .object [("string", .null)])]
    (∃ schema, Schema.load listed = .ok schema) ∧ ¬ IsSchema .documented listed ∧
      (∃ schema, Schema.load keyed = .ok schema) ∧ ¬ IsSchema .documented keyed := by
  refine ⟨⟨_, rfl⟩, ?_, ⟨_, rfl⟩, ?_⟩
  · intro isSchema
    cases isSchema with
    | object holds =>
        have items := holds _ (List.mem_singleton_self _) .items rfl
        cases items with
        | list holdsList => cases holdsList
        | items isSchema => cases isSchema
        | tuple schemas => cases schemas _ (List.mem_singleton_self _)
  · intro isSchema
    cases isSchema with
    | object holds =>
        have types := holds _ (List.mem_singleton_self _) .types rfl
        cases types with
        | tag isTag => cases isTag
        | table holdsTable => cases holdsTable

end Pipewright
