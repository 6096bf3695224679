import Pipewright.Proofs.Json.Entries
import Pipewright.Proofs.Json.Fragments
import Pipewright.Proofs.Schema.Grammar
import Pipewright.Schema.Basic

/-!
# References to definitions

A definition is known under the reference that points at it: a number sign and the pointer to
its entry in the document.  Different entries have different references, also across the two
sections, the number sign alone is the root, and no other text refers to anything.

References are compared as they are written, and only tildes and slashes of a name are escaped.
A percent sign is a character like any other, although in a fragment it starts an encoded octet:
the reference of a name with a percent sign, decoded as a fragment, points elsewhere.
-/

namespace Pipewright

/-- The sections of a schema in which definitions are named. -/
inductive DefinitionSection where
  | definitions
  | localDefinitions

/-- Looking up in a table whose keys were changed injectively. -/
theorem lookup_map_injective {κ ν α β : Type} [BEq κ] [LawfulBEq κ] [BEq ν] [LawfulBEq ν]
    {rename : κ → ν} (injective : Function.Injective rename) {change : α → β}
    (entries : List (κ × α)) (key : κ) :
    (entries.map fun entry => (rename entry.1, change entry.2)).lookup (rename key) =
      (entries.lookup key).map change := by
  induction entries with
  | nil => rfl
  | cons entry rest inner =>
      rw [List.map_cons, List.lookup_cons, List.lookup_cons, inner]
      by_cases same : key = entry.1
      · simp [same]
      · rw [beq_false_of_ne same, beq_false_of_ne (injective.ne same)]

namespace DefinitionSection

/-- The keyword of the section. -/
def keyword : DefinitionSection → Keyword
  | .definitions => .definitions
  | .localDefinitions => .localDefinitions

/-- The key of the section. -/
def name (section_ : DefinitionSection) : String :=
  section_.keyword.name

/-- The path from the root of a schema to an entry of the section. -/
def pathTo (section_ : DefinitionSection) (entry : String) : List Step :=
  [.key section_.name, .key entry]

/-- The reference of an entry of the section. -/
def referenceTo (section_ : DefinitionSection) (entry : String) : String :=
  Schema.referenceTo section_.name entry

/-- The forms in the section. -/
def table (section_ : DefinitionSection) (values : KeywordValues Form) : List (String × Form) :=
  match section_ with
  | .definitions => values.definitions
  | .localDefinitions => values.localDefinitions

variable {section_ other : DefinitionSection}

/-! ## References -/

theorem name_injective (same : section_.name = other.name) : section_ = other := by
  have sameKeyword := Form.keyword_name_injective same
  cases section_ <;> cases other <;> first | rfl | cases sameKeyword

theorem escape_name (section_ : DefinitionSection) :
    Pointer.escape section_.name = section_.name := by
  cases section_ <;> decide

/-- A reference is a number sign in front of the pointer to the entry. -/
theorem referenceTo_eq (section_ : DefinitionSection) (entry : String) :
    section_.referenceTo entry = "#" ++ pointerTo (section_.pathTo entry) := by
  have pointer : pointerTo (section_.pathTo entry) =
      "" ++ ("/" ++ Pointer.escape section_.name) ++ ("/" ++ Pointer.escape entry) := rfl
  rw [pointer, escape_name, referenceTo, Schema.referenceTo]
  simp only [← String.append_assoc]
  rfl

theorem referenceTo_injective {entry entry' : String}
    (same : section_.referenceTo entry = other.referenceTo entry') :
    section_ = other ∧ entry = entry' := by
  have samePointer : pointerTo (section_.pathTo entry) = pointerTo (other.pathTo entry') := by
    rw [referenceTo_eq, referenceTo_eq] at same
    exact (String.append_right_inj "#").mp same
  have tokens := congrArg Pointer.tokens? samePointer
  rw [tokens?_pointerTo, tokens?_pointerTo] at tokens
  obtain ⟨sameName, rest⟩ := List.cons.inj (Option.some.inj tokens)
  exact ⟨name_injective sameName, (List.cons.inj rest).1⟩

theorem referenceTo_ne_root (section_ : DefinitionSection) (entry : String) :
    section_.referenceTo entry ≠ "#" := by
  intro same
  have lengths := congrArg (fun text : String => text.toList.length) same
  simp [referenceTo, Schema.referenceTo] at lengths

/-- Unless the name holds a percent sign, the reference of an entry is the fragment that selects
it. -/
theorem fragment?_referenceTo {document value : Json} {entry : String}
    (written : document.valueAt? (section_.pathTo entry) = some value)
    (plain : '%' ∉ entry.toList) :
    document.fragment? (section_.referenceTo entry) = some value := by
  rw [referenceTo_eq]
  refine Json.fragment?_pointerTo written fun step among => ?_
  rcases List.mem_cons.mp among with rfl | last
  · cases section_ <;> decide
  · cases List.mem_singleton.mp last
    exact plain

/-! ## Reading the sections -/

/-- Setting the keyword of a section sets its table. -/
theorem table_setKeyword? {values values' : KeywordValues Form} {reading : Form.Reading}
    (set : Form.setKeyword? values section_.keyword reading = some values') :
    reading.table? = some (section_.table values') := by
  cases section_ with
  | definitions =>
      obtain ⟨table, read, rfl⟩ := Option.map_eq_some_iff.mp set
      exact read
  | localDefinitions =>
      obtain ⟨table, read, rfl⟩ := Option.map_eq_some_iff.mp set
      exact read

/-- Setting another keyword leaves the table as it is. -/
theorem table_setKeyword?_of_ne {values values' : KeywordValues Form} {keyword : Keyword}
    {reading : Form.Reading} (different : keyword ≠ section_.keyword)
    (set : Form.setKeyword? values keyword reading = some values') :
    section_.table values' = section_.table values := by
  cases keyword with
  | definitions =>
      obtain ⟨table, -, rfl⟩ := Option.map_eq_some_iff.mp set
      cases section_ with
      | definitions => exact absurd rfl different
      | localDefinitions => rfl
  | localDefinitions =>
      obtain ⟨table, -, rfl⟩ := Option.map_eq_some_iff.mp set
      cases section_ with
      | definitions => rfl
      | localDefinitions => exact absurd rfl different
  | enumeration =>
      simp only [Form.setKeyword?] at set
      split at set
      · cases set
        cases section_ <;> rfl
      · cases set
        cases section_ <;> rfl
      · cases set
  | constant =>
      cases set
      cases section_ <;> rfl
  | types | reference | oneOf | anyOf | allOf | properties | patternProperties
    | additionalProperties | items | required =>
      obtain ⟨_, -, rfl⟩ := Option.map_eq_some_iff.mp set
      cases section_ <;> rfl

/-- The table of a section is that of the member under the section's key. -/
theorem table_foldlM_setMember? (section_ : DefinitionSection)
    {members : List (String × Form.Reading)} {values values' : KeywordValues Form}
    (distinct : (members.map (·.1)).Nodup)
    (read : members.foldlM Form.setMember? values = some values') :
    match members.lookup section_.name with
    | some reading => reading.table? = some (section_.table values')
    | none => section_.table values' = section_.table values := by
  induction members generalizing values with
  | nil =>
      cases read
      rfl
  | cons member rest inner =>
      obtain ⟨key, reading⟩ := member
      obtain ⟨new, distinctRest⟩ := List.nodup_cons.mp distinct
      rw [List.foldlM_cons] at read
      obtain ⟨next, set, further⟩ := Option.bind_eq_some_iff.mp read
      have later := inner distinctRest further
      unfold Form.setMember? at set
      rw [lookup_cons_ite]
      by_cases named : section_.name = key
      · -- the table that was set stays, for no other member has the key
        have absent : rest.lookup section_.name = none :=
          List.lookup_eq_none_iff.mpr fun entry among =>
            bne_iff_ne.mpr fun same =>
              new (List.mem_map.mpr ⟨entry, among, same.symm.trans named⟩)
        rw [absent] at later
        rw [(Form.ofName?_eq_some_iff key section_.keyword).mpr named] at set
        rw [if_pos named]
        simp only [later]
        exact table_setKeyword? set
      · have kept : section_.table next = section_.table values := by
          split at set
          · next keyword found =>
              refine table_setKeyword?_of_ne ?_ set
              rintro rfl
              exact named ((Form.ofName?_eq_some_iff key _).mp found)
          · cases set
            rfl
        rw [if_neg named, ← kept]
        exact later

/-- Reading a table keeps its keys and reads each value. -/
theorem lookup_mapM_form? {entries : Members} {table : List (String × Form)}
    (read : (Form.memberReadings entries).mapM
      (fun member => member.2.form?.map fun form => (member.1, form)) = some table)
    (entry : String) :
    (table.lookup entry).map some = (entries.lookup entry).map Form.read? := by
  induction entries generalizing table with
  | nil =>
      cases read
      rfl
  | cons member rest inner =>
      obtain ⟨key, value⟩ := member
      rw [Form.memberReadings, List.mapM_cons] at read
      obtain ⟨first, readFirst, others⟩ := Option.bind_eq_some_iff.mp read
      obtain ⟨form, isForm, rfl⟩ := Option.map_eq_some_iff.mp readFirst
      obtain ⟨more, readRest, same⟩ := Option.bind_eq_some_iff.mp others
      cases same
      rw [lookup_cons_ite, lookup_cons_ite]
      split
      · exact congrArg some isForm.symm
      · exact inner readRest

/-- The forms in a section are read from its entries. -/
theorem lookup_table (section_ : DefinitionSection) {members : Members}
    {values : KeywordValues Form} (distinct : (members.map (·.1)).Nodup)
    (read : Form.read? (.object members) = some (.keywords values)) (entry : String) :
    ((section_.table values).lookup entry).map some =
      ((Json.object members).valueAt? (section_.pathTo entry)).map Form.read? := by
  obtain ⟨_, folded, same⟩ := Option.map_eq_some_iff.mp read
  cases same
  rw [Form.memberReadings_eq_map] at folded
  have found := table_foldlM_setMember? section_
    (by rw [List.map_map]; exact distinct) folded
  have path : (Json.object members).valueAt? (section_.pathTo entry) =
      (members.lookup section_.name).bind fun value => value.child? (.key entry) := by
    rw [pathTo, Json.valueAt?, Json.child?]
    refine congrArg _ (funext fun value => ?_)
    rw [Json.valueAt?]
    exact Option.bind_fun_some _
  have readings : (members.map fun member => (member.1, Form.reading member.2)).lookup
      section_.name = (members.lookup section_.name).map Form.reading :=
    lookup_map_injective Function.injective_id members section_.name
  rw [path]
  rw [readings] at found
  cases listed : members.lookup section_.name with
  | none =>
      rw [listed] at found
      rw [show section_.table values = [] by rw [found]; cases section_ <;> rfl]
      rfl
  | some value =>
      rw [listed] at found
      cases value with
      | object entries => exact lookup_mapM_form? found entry
      | _ => cases found

/-! ## Definitions -/

theorem lookup_definitionsOf (table : List (String × Form)) (entry : String) :
    (Schema.definitionsOf section_.name table).lookup (section_.referenceTo entry) =
      (table.lookup entry).map Form.toNode :=
  lookup_map_injective (fun _ _ same => (referenceTo_injective same).2) table entry

/-- What is known under some reference is an entry of a section. -/
theorem exists_of_mem_definitionsOf {reference : String} {node : Node}
    {table : List (String × Form)}
    (listed : (reference, node) ∈ Schema.definitionsOf section_.name table) :
    ∃ entry, (table.lookup entry).isSome = true ∧ reference = section_.referenceTo entry := by
  obtain ⟨⟨entry, form⟩, among, same⟩ := List.mem_map.mp listed
  cases same
  refine ⟨entry, Option.isSome_iff_ne_none.mpr fun absent => ?_, rfl⟩
  exact bne_iff_ne.mp (List.lookup_eq_none_iff.mp absent _ among) rfl

/-- The definitions of one section are not known under the references of the other. -/
theorem lookup_definitionsOf_of_ne (different : section_ ≠ other) (table : List (String × Form))
    (entry : String) :
    (Schema.definitionsOf other.name table).lookup (section_.referenceTo entry) = none := by
  refine Option.eq_none_iff_forall_ne_some.mpr fun node found => ?_
  obtain ⟨_, -, same⟩ := exists_of_mem_definitionsOf (mem_of_lookup found)
  exact different (referenceTo_injective same).1

variable {schema : Schema} {members : Members}

/-- A schema that is loaded from an object has its definitions from the two sections. -/
theorem exists_values (loaded : Schema.load (.object members) = .ok schema) :
    ∃ values, Form.read? (.object members) = some (.keywords values) ∧
      schema.definitions =
        Schema.definitionsOf (name .definitions) (table .definitions values) ++
          Schema.definitionsOf (name .localDefinitions) (table .localDefinitions values) := by
  unfold Schema.load at loaded
  split at loaded
  · next form read =>
      cases loaded
      obtain ⟨values, -, rfl⟩ := Option.map_eq_some_iff.mp read
      exact ⟨values, read, rfl⟩
  · cases loaded

/-- The definition under the reference of an entry is the node of the form in the section. -/
theorem definition?_referenceTo {values : KeywordValues Form}
    (defined : schema.definitions =
      Schema.definitionsOf (name .definitions) (table .definitions values) ++
        Schema.definitionsOf (name .localDefinitions) (table .localDefinitions values))
    (section_ : DefinitionSection) (entry : String) :
    schema.definition? (section_.referenceTo entry) =
      ((section_.table values).lookup entry).map Form.toNode := by
  rw [Schema.definition?, if_neg (section_.referenceTo_ne_root entry), defined,
    List.lookup_append]
  have different : DefinitionSection.definitions ≠ .localDefinitions := nofun
  cases section_ with
  | definitions =>
      rw [lookup_definitionsOf, lookup_definitionsOf_of_ne different, Option.or_none]
  | localDefinitions =>
      rw [lookup_definitionsOf, lookup_definitionsOf_of_ne different.symm, Option.none_or]

end DefinitionSection

open DefinitionSection

/-- In a schema that is loaded from an object every entry of a section of definitions is known
under one reference, as the node that is loaded from its value.  The text behind the number sign
is a pointer to the entry, and unless the name holds a percent sign, the entry is also what the
fragment selects.  Different entries have different references, the number sign is the root, and
no other reference names anything. -/
theorem references_name_definitions {members : Members} {schema : Schema}
    (distinct : (Json.object members).KeysDistinct)
    (loaded : Schema.load (.object members) = .ok schema) :
    (∀ (section_ : DefinitionSection) (entry : String) (value : Json),
      (Json.object members).valueAt? [.key section_.name, .key entry] = some value →
        (∃ pointer, Schema.referenceTo section_.name entry = "#" ++ pointer ∧
          (Json.object members).evaluate? pointer = some value) ∧
        ('%' ∉ entry.toList →
          (Json.object members).fragment? (Schema.referenceTo section_.name entry) =
            some value) ∧
        ∃ alone, Schema.load value = .ok alone ∧
          schema.definition? (Schema.referenceTo section_.name entry) = some alone.root) ∧
    (∀ (section_ other : DefinitionSection) (entry entry' : String),
      Schema.referenceTo section_.name entry = Schema.referenceTo other.name entry' →
        section_ = other ∧ entry = entry') ∧
    schema.definition? "#" = some schema.root ∧
    ∀ reference, reference ≠ "#" →
      (∀ (section_ : DefinitionSection) (entry : String),
        ((Json.object members).valueAt? [.key section_.name, .key entry]).isSome = true →
          reference ≠ Schema.referenceTo section_.name entry) →
      schema.definition? reference = none := by
  obtain ⟨values, read, defined⟩ := exists_values loaded
  have keys : (members.map (·.1)).Nodup := (Json.keysDistinct_object.mp distinct).1
  refine ⟨?_, fun _ _ _ _ => referenceTo_injective, if_pos rfl, ?_⟩
  · intro section_ entry value written
    have entries := lookup_table section_ keys read entry
    rw [pathTo, written, Option.map_some] at entries
    obtain ⟨form, found, isForm⟩ := Option.map_eq_some_iff.mp entries
    have known := (definition?_referenceTo defined section_ entry).trans (congrArg _ found)
    refine ⟨⟨_, referenceTo_eq section_ entry, Json.evaluate?_pointerTo written⟩,
      fragment?_referenceTo written,
      ⟨Schema.identity value, form.toNode, Schema.definitionsOfForm form⟩, ?_, known⟩
    rw [Schema.load, ← isForm]
  · intro reference notRoot unknown
    rw [Schema.definition?, if_neg notRoot]
    refine Option.eq_none_iff_forall_ne_some.mpr fun node found => ?_
    have named : ∃ (section_ : DefinitionSection) (entry : String),
        ((section_.table values).lookup entry).isSome = true ∧
          reference = section_.referenceTo entry := by
      rw [defined] at found
      rcases List.mem_append.mp (mem_of_lookup found) with shared | inner
      · exact ⟨_, exists_of_mem_definitionsOf shared⟩
      · exact ⟨_, exists_of_mem_definitionsOf inner⟩
    obtain ⟨section_, entry, listed, rfl⟩ := named
    refine unknown section_ entry ?_ rfl
    have entries := congrArg Option.isSome (lookup_table section_ keys read entry)
    rw [Option.isSome_map, Option.isSome_map, listed] at entries
    exact entries.symm

/-- One name in both sections, and a name that looks like an escape. -/
theorem references_name_definitions_on_slashes :
    let source := Json.object
      [("definitions", .object [("a/b", .boolean true), ("~1", .object [])]),
        ("$defs", .object [("a/b", .boolean false)])]
    source.KeysDistinct ∧ ∃ schema, Schema.load source = .ok schema ∧
      source.fragment? "#/$defs/a~1b" = some (.boolean false) ∧
      schema.definition? "#/definitions/~01" = some Node.any ∧
      schema.definition? "#/definitions/a/b" = none := by
  intro source
  have distinct : source.KeysDistinct := by
    simp [source, Json.KeysDistinct, Json.MemberKeysDistinct]
  have loaded : Schema.load source = .ok _ := rfl
  have named := references_name_definitions distinct loaded
  have slash : Schema.referenceTo (name .localDefinitions) "a/b" = "#/$defs/a~1b" := by decide
  have tilde : Schema.referenceTo (name .definitions) "~1" = "#/definitions/~01" := by decide
  refine ⟨distinct, _, loaded, ?_, ?_, ?_⟩
  · exact slash ▸ (named.1 .localDefinitions "a/b" _ rfl).2.1 (by decide)
  · obtain ⟨alone, loadedAlone, known⟩ := (named.1 .definitions "~1" _ rfl).2.2
    cases loadedAlone
    exact tilde ▸ known
  · refine named.2.2.2 _ (by decide) fun section_ entry written same => ?_
    obtain ⟨value, there⟩ := Option.isSome_iff_exists.mp written
    obtain ⟨pointer, reference, selected⟩ := (named.1 section_ entry value there).1
    have behind : "/definitions/a/b" = pointer :=
      (String.append_right_inj "#").mp (same.trans reference)
    have nothing : source.evaluate? "/definitions/a/b" = none := by rfl
    rw [← behind, nothing] at selected
    cases selected

/-- Decoded as a fragment, the reference of a name with a percent sign can select another entry,
from which another node is loaded. -/
theorem percent_sign_selects_other_entry :
    let selected := Json.object [("type", .string "string")]
    let source := Json.object [("definitions", .object
      [("a%25b", .object []), ("a%b", selected)])]
    let reference := Schema.referenceTo (name .definitions) "a%25b"
    source.KeysDistinct ∧ ∃ schema alone, Schema.load source = .ok schema ∧
      source.valueAt? [.key (name .definitions), .key "a%25b"] = some (.object []) ∧
      schema.definition? reference = some Node.any ∧
      source.fragment? reference = some selected ∧
      Schema.load selected = .ok alone ∧ schema.definition? reference ≠ some alone.root := by
  intro selected source reference
  have distinct : source.KeysDistinct := by
    simp [source, selected, Json.KeysDistinct, Json.MemberKeysDistinct]
  have written : reference = "#" ++ "/definitions/a%25b" := by decide
  have decoded : Pointer.ofFragment? "/definitions/a%25b" = some "/definitions/a%b" := by decide
  have fragment : source.fragment? reference = some selected := by
    rw [written, Json.fragment?_number_sign, decoded]
    rfl
  refine ⟨distinct, _, _, rfl, rfl, rfl, fragment, rfl, fun same => ?_⟩
  have types : ([] : List PrimitiveType) = [.string] :=
    congrArg Node.types (Option.some.inj same)
  cases types

end Pipewright
