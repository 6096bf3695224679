import Pipewright.Proofs.Json.Doubles
import Pipewright.Schema.Basic

/-!
# The doubles of a schema

A schema keeps the doubles of its source among the values that it allows, and nowhere else.
Exchanging doubles in the source exchanges them there and changes nothing else but the
identity of the schema.
-/

namespace Pipewright

namespace Form

mutual

/-- The form with the doubles of its allowed values exchanged. -/
def mapReals (change : Binary64 → Binary64) : Form → Form
  | .boolean value => .boolean value
  | .keywords values => .keywords (mapValues change values)

def mapValues (change : Binary64 → Binary64) : KeywordValues Form → KeywordValues Form
  | ⟨types, reference, oneOf, anyOf, allOf, properties, patternProperties, additional, items,
      enumValues, constValue, required, definitions, localDefinitions⟩ =>
      { types := types
        reference := reference
        oneOf := mapAll change oneOf
        anyOf := mapAll change anyOf
        allOf := mapAll change allOf
        properties := mapTable change properties
        patternProperties := mapTable change patternProperties
        additional := mapAdditional change additional
        items := mapItems change items
        enumValues := enumValues.map (Json.mapItemReals change)
        constValue := constValue.map (Json.mapReals change)
        required := required
        definitions := mapTable change definitions
        localDefinitions := mapTable change localDefinitions }

def mapAll (change : Binary64 → Binary64) : List Form → List Form
  | [] => []
  | form :: rest => form.mapReals change :: mapAll change rest

def mapTable (change : Binary64 → Binary64) : List (String × Form) → List (String × Form)
  | [] => []
  | (key, form) :: rest => (key, form.mapReals change) :: mapTable change rest

def mapAdditional (change : Binary64 → Binary64) : Option Form → Option Form
  | none => none
  | some form => some (form.mapReals change)

def mapItems (change : Binary64 → Binary64) : ItemsForm Form → ItemsForm Form
  | .absent => .absent
  | .single form => .single (form.mapReals change)
  | .tuple forms => .tuple (mapAll change forms)

end

end Form

namespace Node

mutual

/-- The node with the doubles of its allowed values exchanged. -/
def mapReals (change : Binary64 → Binary64) : Node → Node
  | ⟨types, reference, oneOf, anyOf, allOf, properties, patterns, additional, items, enumValues,
      required, never⟩ =>
      { types := types
        reference := reference
        oneOf := mapAll change oneOf
        anyOf := mapAll change anyOf
        allOf := mapAll change allOf
        properties := mapTable change properties
        patterns := mapPatterns change patterns
        additional := mapAdditional change additional
        items := mapItems change items
        enumValues := enumValues.map (Json.mapItemReals change)
        required := required
        never := never }

def mapAll (change : Binary64 → Binary64) : List Node → List Node
  | [] => []
  | node :: rest => node.mapReals change :: mapAll change rest

def mapTable (change : Binary64 → Binary64) : List (String × Node) → List (String × Node)
  | [] => []
  | (key, node) :: rest => (key, node.mapReals change) :: mapTable change rest

def mapPatterns (change : Binary64 → Binary64) : List (Pattern × Node) → List (Pattern × Node)
  | [] => []
  | (pattern, node) :: rest => (pattern, node.mapReals change) :: mapPatterns change rest

def mapAdditional (change : Binary64 → Binary64) : Additional Node → Additional Node
  | .any => .any
  | .forbidden => .forbidden
  | .schema node => .schema (node.mapReals change)

def mapItems (change : Binary64 → Binary64) : Option Node → Option Node
  | none => none
  | some node => some (node.mapReals change)

end

end Node

variable {change : Binary64 → Binary64}

/-! ## From documents to forms -/

namespace Form

theorem mapAll_eq_map (forms : List Form) : mapAll change forms = forms.map (mapReals change) := by
  induction forms with
  | nil => rfl
  | cons form rest inner => rw [mapAll, inner, List.map_cons]

theorem mapTable_eq_map (table : List (String × Form)) :
    mapTable change table = table.map fun entry => (entry.1, entry.2.mapReals change) := by
  induction table with
  | nil => rfl
  | cons entry rest inner => rw [mapTable, inner, List.map_cons]

/-- A reading with the doubles exchanged. -/
def Reading.mapReals (change : Binary64 → Binary64) (reading : Reading) : Reading where
  source := reading.source.mapReals change
  form? := reading.form?.map (Form.mapReals change)
  forms? := reading.forms?.map (mapAll change)
  table? := reading.table?.map (mapTable change)

theorem tag?_mapReals (value : Json) : tag? (value.mapReals change) = tag? value := by
  cases value with
  | object members =>
      match members with
      | [] => rfl
      | [(name, value)] => cases value <;> rfl
      | (_, value) :: _ :: _ => cases value <;> rfl
  | _ => rfl

theorem mapM_mapItemReals {α : Type} {read : Json → Option α}
    (blind : ∀ value, read (value.mapReals change) = read value) (items : List Json) :
    (Json.mapItemReals change items).mapM read = items.mapM read := by
  induction items with
  | nil => rfl
  | cons item rest inner => rw [Json.mapItemReals, List.mapM_cons, List.mapM_cons, blind, inner]

theorem types?_mapReals (value : Json) : types? (value.mapReals change) = types? value := by
  unfold types?
  rw [tag?_mapReals]
  cases value with
  | array items =>
      simp only [Json.mapReals]
      rw [mapM_mapItemReals tag?_mapReals]
  | _ => rfl

theorem text?_mapReals (value : Json) : text? (value.mapReals change) = text? value := by
  cases value <;> rfl

theorem texts?_mapReals (value : Json) : texts? (value.mapReals change) = texts? value := by
  cases value with
  | array items => exact mapM_mapItemReals text?_mapReals items
  | _ => rfl

theorem optional?_mapReals {α : Type} (source : Json) (read : Option α) :
    optional? (source.mapReals change) read = optional? source read := by
  cases source <;> rfl

theorem optional?_map {α β : Type} (source : Json) (read : Option α) (convert : α → β) :
    optional? source (read.map convert) = (optional? source read).map (Option.map convert) := by
  cases source <;> cases read <;> rfl

theorem items?_mapReals (reading : Reading) :
    items? (reading.mapReals change) = (items? reading).map (mapItems change) := by
  obtain ⟨_, form?, forms?, _⟩ := reading
  cases form? with
  | some form => rfl
  | none => cases forms? <;> rfl

theorem setKeyword?_mapReals (values : KeywordValues Form) (keyword : Keyword)
    (reading : Reading) :
    setKeyword? (mapValues change values) keyword (reading.mapReals change) =
      (setKeyword? values keyword reading).map (mapValues change) := by
  have items : items? (reading.mapReals change) = (items? reading).map (mapItems change) :=
    items?_mapReals reading
  obtain ⟨source, form?, forms?, table?⟩ := reading
  cases values
  cases keyword with
  | types =>
      simp only [setKeyword?, Reading.mapReals, types?_mapReals, optional?_mapReals]
      cases optional? source (types? source) <;> rfl
  | reference =>
      simp only [setKeyword?, Reading.mapReals, text?_mapReals, optional?_mapReals]
      cases optional? source (text? source) <;> rfl
  | additionalProperties =>
      simp only [setKeyword?, Reading.mapReals, optional?_mapReals, optional?_map]
      cases optional? source form? with
      | none => rfl
      | some additional => cases additional <;> rfl
  | items =>
      simp only [setKeyword?, items]
      rw [Reading.mapReals, optional?_mapReals, optional?_map]
      cases optional? source (items? ⟨source, form?, forms?, table?⟩) with
      | none => rfl
      | some said => cases said <;> rfl
  | enumeration => cases source <;> rfl
  | constant => rfl
  | required =>
      simp only [setKeyword?, Reading.mapReals, texts?_mapReals]
      cases texts? source <;> rfl
  | oneOf => cases forms? <;> rfl
  | anyOf => cases forms? <;> rfl
  | allOf => cases forms? <;> rfl
  | properties => cases table? <;> rfl
  | patternProperties => cases table? <;> rfl
  | definitions => cases table? <;> rfl
  | localDefinitions => cases table? <;> rfl

/-- Setting keywords one after the other goes along with exchanging doubles. -/
theorem foldlM_map_natural {α β : Type} {step : α → β → Option α} {convert : α → α}
    {prepare : β → β}
    (natural : ∀ state item, step (convert state) (prepare item) = (step state item).map convert)
    (items : List β) (state : α) :
    (items.map prepare).foldlM step (convert state) = (items.foldlM step state).map convert := by
  induction items generalizing state with
  | nil => rfl
  | cons item rest inner =>
      rw [List.map_cons, List.foldlM_cons, List.foldlM_cons, natural]
      cases step state item with
      | none => rfl
      | some next => exact inner next

theorem mapM_map_natural {α β : Type} {read : α → Option β} {prepare : α → α} {convert : β → β}
    (natural : ∀ item, read (prepare item) = (read item).map convert) (items : List α) :
    (items.map prepare).mapM read = (items.mapM read).map (List.map convert) := by
  induction items with
  | nil => rfl
  | cons item rest inner =>
      rw [List.map_cons, List.mapM_cons, List.mapM_cons, natural, inner]
      cases read item with
      | none => rfl
      | some first => cases rest.mapM read <;> rfl

/-- Set the keyword of a member, if its key is one. -/
def setMember? (values : KeywordValues Form) (member : String × Reading) :
    Option (KeywordValues Form) :=
  match Keyword.ofName? member.1 with
  | some keyword => setKeyword? values keyword member.2
  | none => some values

theorem ofMembers?_eq (members : List (String × Reading)) :
    ofMembers? members = (members.foldlM setMember? .absent).map .keywords :=
  rfl

theorem ofMembers?_mapReals (members : List (String × Reading)) :
    ofMembers? (members.map fun member => (member.1, member.2.mapReals change)) =
      (ofMembers? members).map (mapReals change) := by
  have natural : ∀ (values : KeywordValues Form) (member : String × Reading),
      setMember? (mapValues change values) (member.1, member.2.mapReals change) =
        (setMember? values member).map (mapValues change) := by
    intro values member
    unfold setMember?
    cases Keyword.ofName? member.1 with
    | none => rfl
    | some keyword => exact setKeyword?_mapReals values keyword member.2
  have absent : KeywordValues.absent = mapValues change KeywordValues.absent := rfl
  rw [ofMembers?_eq, ofMembers?_eq, absent, foldlM_map_natural natural, ← absent,
    Option.map_map, Option.map_map]
  rfl

/-- Set a keyword to the value at its place in a list. -/
def setPlace? (values : KeywordValues Form) (place : Keyword × Reading) :
    Option (KeywordValues Form) :=
  setKeyword? values place.1 place.2

theorem ofItems?_eq (items : List Reading) :
    ofItems? items = if Keyword.all.length < items.length then none
      else ((Keyword.all.zip items).foldlM setPlace? .absent).map .keywords :=
  rfl

theorem ofItems?_mapReals (items : List Reading) :
    ofItems? (items.map (Reading.mapReals change)) = (ofItems? items).map (mapReals change) := by
  have natural : ∀ (values : KeywordValues Form) (place : Keyword × Reading),
      setPlace? (mapValues change values) (Prod.map id (Reading.mapReals change) place) =
        (setPlace? values place).map (mapValues change) :=
    fun values place => setKeyword?_mapReals values place.1 place.2
  have absent : KeywordValues.absent = mapValues change KeywordValues.absent := rfl
  rw [ofItems?_eq, ofItems?_eq, List.length_map]
  split
  · rfl
  · rw [List.zip_map_right, absent, foldlM_map_natural natural, ← absent, Option.map_map,
      Option.map_map]
    rfl

theorem mapM_form?_mapReals (items : List Reading) :
    (items.map (Reading.mapReals change)).mapM Reading.form? =
      (items.mapM Reading.form?).map (mapAll change) := by
  have natural : ∀ reading : Reading,
      (reading.mapReals change).form? = reading.form?.map (mapReals change) := fun _ => rfl
  rw [mapM_map_natural natural]
  congr 1
  funext forms
  exact (mapAll_eq_map forms).symm

theorem mapM_member_mapReals (members : List (String × Reading)) :
    (members.map fun member => (member.1, member.2.mapReals change)).mapM
        (fun member : String × Reading => member.2.form?.map fun form => (member.1, form)) =
      (members.mapM fun member : String × Reading =>
        member.2.form?.map fun form => (member.1, form)).map (mapTable change) := by
  have natural : ∀ member : String × Reading,
      (member.2.mapReals change).form?.map (fun form => (member.1, form)) =
        (member.2.form?.map fun form => (member.1, form)).map
          fun entry => (entry.1, entry.2.mapReals change) := by
    intro member
    rw [Reading.mapReals, Option.map_map, Option.map_map]
    rfl
  rw [mapM_map_natural natural]
  congr 1
  funext table
  exact (mapTable_eq_map table).symm

mutual

theorem reading_mapReals : (value : Json) →
    reading (value.mapReals change) = (reading value).mapReals change
  | .null => rfl
  | .boolean _ => rfl
  | .number _ => rfl
  | .string _ => rfl
  | .array items => by
      rw [Json.mapReals, reading, reading, readings_mapReals items, ofItems?_mapReals,
        mapM_form?_mapReals]
      rfl
  | .object members => by
      rw [Json.mapReals, reading, reading, memberReadings_mapReals members,
        ofMembers?_mapReals, mapM_member_mapReals]
      rfl

theorem readings_mapReals : (items : List Json) →
    readings (Json.mapItemReals change items) = (readings items).map (Reading.mapReals change)
  | [] => rfl
  | item :: items => by
      rw [Json.mapItemReals, readings, readings, reading_mapReals item, readings_mapReals items,
        List.map_cons]

theorem memberReadings_mapReals : (members : Members) →
    memberReadings (Json.mapMemberReals change members) =
      (memberReadings members).map fun member => (member.1, member.2.mapReals change)
  | [] => rfl
  | (key, value) :: members => by
      rw [Json.mapMemberReals, memberReadings, memberReadings, reading_mapReals value,
        memberReadings_mapReals members, List.map_cons]

end

theorem read?_mapReals (source : Json) :
    read? (source.mapReals change) = (read? source).map (mapReals change) := by
  rw [read?, reading_mapReals]
  rfl

/-! ## From forms to nodes -/

theorem allowedValues_mapReals (listed : Option (List Json)) (constant : Option Json) :
    allowedValues (listed.map (Json.mapItemReals change)) (constant.map (Json.mapReals change)) =
      (allowedValues listed constant).map (Json.mapItemReals change) := by
  cases listed <;> cases constant <;> rfl

mutual

theorem toNode_mapReals : (form : Form) →
    (form.mapReals change).toNode = form.toNode.mapReals change
  | .boolean true => rfl
  | .boolean false => rfl
  | .keywords ⟨_, _, oneOf, anyOf, allOf, properties, patternProperties, additional, items, _, _,
      _, _, _⟩ => by
      rw [mapReals, mapValues, toNode, toNode, Node.mapReals, toNodes_mapReals oneOf,
        toNodes_mapReals anyOf, toNodes_mapReals allOf, toTable_mapReals properties,
        toPatterns_mapReals patternProperties, toAdditional_mapReals additional,
        toItems_mapReals items, allowedValues_mapReals]

theorem toNodes_mapReals : (forms : List Form) →
    toNodes (mapAll change forms) = Node.mapAll change (toNodes forms)
  | [] => rfl
  | form :: forms => by
      rw [mapAll, toNodes, toNodes, Node.mapAll, toNode_mapReals form, toNodes_mapReals forms]

theorem toTable_mapReals : (table : List (String × Form)) →
    toTable (mapTable change table) = Node.mapTable change (toTable table)
  | [] => rfl
  | (key, form) :: table => by
      rw [mapTable, toTable, toTable, Node.mapTable, toNode_mapReals form, toTable_mapReals table]

theorem toPatterns_mapReals : (table : List (String × Form)) →
    toPatterns (mapTable change table) = Node.mapPatterns change (toPatterns table)
  | [] => rfl
  | (source, form) :: table => by
      rw [mapTable, toPatterns, toPatterns]
      cases Pattern.compile source with
      | ok pattern =>
          simp only [Node.mapPatterns]
          rw [toNode_mapReals form, toPatterns_mapReals table]
      | error _ => exact toPatterns_mapReals table

theorem toAdditional_mapReals : (additional : Option Form) →
    toAdditional (mapAdditional change additional) =
      Node.mapAdditional change (toAdditional additional)
  | none => rfl
  | some (.boolean true) => rfl
  | some (.boolean false) => rfl
  | some (.keywords values) => by
      have node := toNode_mapReals (.keywords values)
      exact congrArg Additional.schema node

theorem toItems_mapReals : (items : ItemsForm Form) →
    toItems (mapItems change items) = Node.mapItems change (toItems items)
  | .absent => rfl
  | .tuple _ => rfl
  | .single form => by
      rw [mapItems, toItems, toItems, Node.mapItems, toNode_mapReals form]

end

end Form

/-! ## From documents to schemas -/

namespace Schema

/-- The schema with the doubles of its allowed values exchanged, under another identity. -/
def mapReals (change : Binary64 → Binary64) (id : String) (schema : Schema) : Schema :=
  ⟨id, schema.root.mapReals change, Node.mapTable change schema.definitions⟩

theorem definitionsOf_mapReals (section_ : String) (table : List (String × Form)) :
    definitionsOf section_ (Form.mapTable change table) =
      Node.mapTable change (definitionsOf section_ table) := by
  induction table with
  | nil => rfl
  | cons entry rest inner =>
      unfold definitionsOf at inner ⊢
      rw [Form.mapTable, List.map_cons, List.map_cons, Node.mapTable, inner,
        Form.toNode_mapReals]

theorem mapTable_append (left right : List (String × Node)) :
    Node.mapTable change (left ++ right) =
      Node.mapTable change left ++ Node.mapTable change right := by
  induction left with
  | nil => rfl
  | cons entry rest inner => rw [List.cons_append, Node.mapTable, Node.mapTable, inner,
      List.cons_append]

theorem definitionsOfForm_mapReals (form : Form) :
    definitionsOfForm (form.mapReals change) = Node.mapTable change (definitionsOfForm form) := by
  cases form with
  | boolean _ => rfl
  | keywords values =>
      cases values
      rw [Form.mapReals, Form.mapValues, definitionsOfForm, definitionsOfForm,
        definitionsOf_mapReals, definitionsOf_mapReals, mapTable_append]

/-- Exchanging doubles in a source exchanges them in the schema. -/
theorem load_mapReals (change : Binary64 → Binary64) {source : Json} {schema : Schema}
    (loaded : load source = .ok schema) :
    load (source.mapReals change) =
      .ok (schema.mapReals change (identity (source.mapReals change))) := by
  unfold load at loaded ⊢
  rw [Form.read?_mapReals]
  cases read : Form.read? source with
  | none =>
      rw [read] at loaded
      cases loaded
  | some form =>
      rw [read] at loaded
      cases loaded
      simp only [Option.map_some]
      rw [Form.toNode_mapReals, definitionsOfForm_mapReals]
      rfl

end Schema

end Pipewright
