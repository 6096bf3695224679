import Pipewright.Proofs.Json.Entries
import Pipewright.Schema.Basic

/-!
# Layers of nodes

Nodes that are merged one over the other form layers.  What the merged node says on a key
comes from the last layer that names the key, else from the first layer with a pattern for
it, else from the last layer that says something on additional keys.
-/

namespace Pipewright

namespace Node

/-! ## Required names -/

theorem addNames_cons (names rest : List String) (name : String) :
    addNames names (name :: rest) = addNames (addNames names [name]) rest := rfl

theorem addNames_append (names more others : List String) :
    addNames names (more ++ others) = addNames (addNames names more) others :=
  List.foldl_append

theorem addNames_of_mem {names : List String} {name : String} (present : name ∈ names) :
    addNames names [name] = names := by
  simp [addNames, present]

theorem addNames_of_not_mem {names : List String} {name : String} (absent : name ∉ names) :
    addNames names [name] = names ++ [name] := by
  simp [addNames, absent]

theorem mem_addNames {names more : List String} {name : String} :
    name ∈ addNames names more ↔ name ∈ names ∨ name ∈ more := by
  induction more generalizing names with
  | nil => simp [addNames]
  | cons first rest inner =>
      rw [addNames_cons, inner]
      by_cases present : first ∈ names
      · rw [addNames_of_mem present, List.mem_cons]
        constructor
        · rintro (old | later)
          · exact .inl old
          · exact .inr (.inr later)
        · rintro (old | rfl | later)
          · exact .inl old
          · exact .inl present
          · exact .inr later
      · simp [addNames_of_not_mem present, or_assoc]

theorem addNames_addNames (lower middle upper : List String) :
    addNames lower (addNames middle upper) = addNames (addNames lower middle) upper := by
  induction upper generalizing middle with
  | nil => rfl
  | cons name rest inner =>
      rw [addNames_cons middle, inner, addNames_cons (addNames lower middle)]
      congr 1
      by_cases present : name ∈ middle
      · rw [addNames_of_mem present, addNames_of_mem (mem_addNames.mpr (.inr present))]
      · rw [addNames_of_not_mem present, addNames_append]

/-! ## Merging is associative -/

/-- Each property of the node is named once. -/
def NamesDistinct (node : Node) : Prop :=
  (node.properties.map (·.1)).Nodup

theorem types_overlay (lower upper : Node) :
    (lower.overlay upper).types = if upper.types = [] then lower.types else upper.types := by
  simp [overlay]

theorem patterns_overlay (lower upper : Node) :
    (lower.overlay upper).patterns = lower.patterns ++ upper.patterns := rfl

theorem additional_overlay (lower upper : Node) :
    (lower.overlay upper).additional =
      match upper.additional with
      | .any => lower.additional
      | said => said := rfl

theorem items_overlay (lower upper : Node) :
    (lower.overlay upper).items = upper.items.or lower.items := by
  cases described : upper.items <;> simp [overlay, described]

theorem enumValues_overlay (lower upper : Node) :
    (lower.overlay upper).enumValues = upper.enumValues.or lower.enumValues := by
  cases listed : upper.enumValues <;> simp [overlay, listed]

theorem never_overlay (lower upper : Node) :
    (lower.overlay upper).never = (lower.never || upper.never) := rfl

theorem namesDistinct_overlay {lower : Node} (distinct : lower.NamesDistinct) (upper : Node) :
    (lower.overlay upper).NamesDistinct :=
  nodup_putEntries distinct upper.properties

theorem namesDistinct_any : any.NamesDistinct := List.nodup_nil

/-- Three layers may be merged from above as well as from below. -/
theorem overlay_overlay {middle : Node} (distinct : middle.NamesDistinct) (lower upper : Node) :
    lower.overlay (middle.overlay upper) = (lower.overlay middle).overlay upper := by
  have types : (lower.overlay (middle.overlay upper)).types =
      ((lower.overlay middle).overlay upper).types := by
    simp only [types_overlay]
    by_cases silent : upper.types = [] <;> simp [silent]
  have properties := putEntries_putEntries distinct lower.properties upper.properties
  have patterns := (List.append_assoc lower.patterns middle.patterns upper.patterns).symm
  have additional : (lower.overlay (middle.overlay upper)).additional =
      ((lower.overlay middle).overlay upper).additional := by
    simp only [additional_overlay]
    cases upper.additional <;> rfl
  have items : (lower.overlay (middle.overlay upper)).items =
      ((lower.overlay middle).overlay upper).items := by
    simp only [items_overlay, Option.or_assoc]
  have enumValues : (lower.overlay (middle.overlay upper)).enumValues =
      ((lower.overlay middle).overlay upper).enumValues := by
    simp only [enumValues_overlay, Option.or_assoc]
  have required := addNames_addNames lower.required middle.required upper.required
  have never := (Bool.or_assoc lower.never middle.never upper.never).symm
  exact (Node.mk.injEq ..).mpr
    ⟨types, rfl, rfl, rfl, rfl, properties, patterns, additional, items, enumValues, required,
      never⟩

/-- Composition keywords of the lower node never count. -/
theorem base_overlay (lower upper : Node) : lower.base.overlay upper = lower.overlay upper := by
  simp [base, overlay, any, addNames]

/-- Nor do those of the upper node. -/
theorem overlay_base (lower upper : Node) : lower.overlay upper.base = lower.overlay upper := by
  simp [base, overlay, any, addNames]

/-! ## What layers say on a key -/

/-- What the node says on keys that it does not name, unless it admits all of them. -/
def saidOnOthers? (node : Node) : Option (Option Node) :=
  match node.additional with
  | .any => none
  | .forbidden => some none
  | .schema property => some (some property)

theorem propertyNode?_eq (node : Node) (key : String) :
    node.propertyNode? key =
      ((node.properties.lookup key).or (node.patternNode? key)).or
        (node.saidOnOthers?.getD (some any)) := by
  rw [propertyNode?, saidOnOthers?]
  cases node.properties.lookup key with
  | some property => rfl
  | none =>
      cases node.patternNode? key with
      | some property => rfl
      | none => cases node.additional <;> rfl

theorem patternNode?_overlay (lower upper : Node) (key : String) :
    (lower.overlay upper).patternNode? key =
      (lower.patternNode? key).or (upper.patternNode? key) := by
  rw [patternNode?, patterns_overlay, List.find?_append, Option.map_or]
  rfl

theorem saidOnOthers?_overlay (lower upper : Node) :
    (lower.overlay upper).saidOnOthers? = upper.saidOnOthers?.or lower.saidOnOthers? := by
  rw [saidOnOthers?, additional_overlay, saidOnOthers?]
  cases upper.additional <;> rfl

/-- Nodes merged over another one, in order. -/
def overlayAll (bottom : Node) (uppers : List Node) : Node :=
  uppers.foldl overlay bottom

theorem overlayAll_append (bottom : Node) (uppers more : List Node) :
    bottom.overlayAll (uppers ++ more) = (bottom.overlayAll uppers).overlayAll more :=
  List.foldl_append

section Layers

variable {β : Type} (read : Node → Option β) {uppers : List Node}

/-- What an upper node replaces comes from the last layer that has it. -/
theorem read_overlayAll_of_replaced
    (replaced : ∀ lower, ∀ upper ∈ uppers,
      read (lower.overlay upper) = (read upper).or (read lower)) (bottom : Node) :
    read (bottom.overlayAll uppers) = (bottom :: uppers).reverse.findSome? read := by
  induction uppers generalizing bottom with
  | nil => cases found : read bottom <;> simp [overlayAll, found]
  | cons upper rest inner =>
      have later := inner (fun lower next among =>
        replaced lower next (List.mem_cons_of_mem _ among)) (bottom.overlay upper)
      rw [overlayAll, List.foldl_cons, ← overlayAll, later, List.reverse_cons,
        List.reverse_cons, List.reverse_cons, List.append_assoc, List.findSome?_append,
        List.findSome?_append]
      congr 1
      have here := replaced bottom upper List.mem_cons_self
      cases found : read upper <;> simp [List.findSome?_cons, here, found]

/-- What an upper node only adds comes from the first layer that has it. -/
theorem read_overlayAll_of_added
    (added : ∀ lower upper, read (lower.overlay upper) = (read lower).or (read upper))
    (bottom : Node) :
    read (bottom.overlayAll uppers) = (bottom :: uppers).findSome? read := by
  induction uppers generalizing bottom with
  | nil => cases found : read bottom <;> simp [overlayAll, found]
  | cons upper rest inner =>
      rw [overlayAll, List.foldl_cons, ← overlayAll, inner]
      cases found : read bottom <;> simp [List.findSome?_cons, added, found]

end Layers

/-- The property of a name in the last layer that has one. -/
def lastNamed? (layers : List Node) (key : String) : Option Node :=
  layers.reverse.findSome? (·.properties.lookup key)

/-- The node of the first fitting pattern, in the first layer that has one. -/
def firstPatterned? (layers : List Node) (key : String) : Option Node :=
  layers.findSome? (·.patternNode? key)

/-- The node of the first fitting pattern, in the last layer that has one. -/
def lastPatterned? (layers : List Node) (key : String) : Option Node :=
  layers.reverse.findSome? (·.patternNode? key)

/-- What the last layer says on additional keys that does not admit all of them. -/
def lastOnOthers (layers : List Node) : Option Node :=
  (layers.reverse.findSome? saidOnOthers?).getD (some any)

/-- The node for a key where layers name it, else the one that patterns give, else what is
said on additional keys. -/
def nodeInLayers? (layers : List Node) (patterned : Option Node) (key : String) :
    Option Node :=
  ((lastNamed? layers key).or patterned).or (lastOnOthers layers)

theorem firstPatterned?_eq_none_iff (layers : List Node) (key : String) :
    firstPatterned? layers key = none ↔ lastPatterned? layers key = none := by
  simp [firstPatterned?, lastPatterned?]

/-- Merged layers give a key the property of the last layer that names it, else the node of
the first layer with a fitting pattern, else what the last layer says that says something on
additional keys.  So the last writer counts for every key but one that no layer names and to
which the first and the last layer with a fitting pattern give different nodes. -/
theorem merged_layers_decide_property (bottom : Node) {uppers : List Node}
    (distinct : ∀ upper ∈ uppers, upper.NamesDistinct) (key : String) :
    let layers := bottom :: uppers
    let merged := bottom.overlayAll uppers
    merged.propertyNode? key = nodeInLayers? layers (firstPatterned? layers key) key ∧
      (merged.propertyNode? key = nodeInLayers? layers (lastPatterned? layers key) key ↔
        (lastNamed? layers key = none →
          firstPatterned? layers key = lastPatterned? layers key)) := by
  intro layers merged
  have named : merged.properties.lookup key = lastNamed? layers key :=
    read_overlayAll_of_replaced (·.properties.lookup key)
      (fun lower upper among => lookup_putEntries (distinct upper among) lower.properties key)
      bottom
  have patterned : merged.patternNode? key = firstPatterned? layers key :=
    read_overlayAll_of_added (·.patternNode? key)
      (fun lower upper => patternNode?_overlay lower upper key) bottom
  have said : merged.saidOnOthers? = layers.reverse.findSome? saidOnOthers? :=
    read_overlayAll_of_replaced saidOnOthers?
      (fun lower upper _ => saidOnOthers?_overlay lower upper) bottom
  have decided : merged.propertyNode? key =
      nodeInLayers? layers (firstPatterned? layers key) key := by
    rw [propertyNode?_eq, named, patterned, said]
    rfl
  refine ⟨decided, ?_⟩
  rw [decided, nodeInLayers?, nodeInLayers?]
  cases lastNamed? layers key with
  | some property => simp
  | none =>
      have both := firstPatterned?_eq_none_iff layers key
      cases first : firstPatterned? layers key with
      | none => simp [both.mp first]
      | some early =>
          cases last : lastPatterned? layers key with
          | none => simp [both.mpr last] at first
          | some late => simp

/-- A node for values of one type. -/
def ofType (tag : PrimitiveType) : Node :=
  { any with types := [tag] }

/-- Steps whose `run` is a text, with texts under the keys of extensions. -/
def textStep : Node :=
  { any with
    properties := [("run", ofType .string)]
    patterns := [(⟨"^x-", .sequence [.condition .startText,
      .character (.ofList ['x']), .character (.ofList ['-'])]⟩, ofType .string)]
    additional := .forbidden }

/-- Steps whose `run` is a list, with any other keys of objects. -/
def listStep : Node :=
  { any with
    properties := [("uses", ofType .string), ("run", ofType .array)]
    additional := .schema (ofType .object) }

theorem merged_layers_decide_property_on_steps :
    (∀ upper ∈ [listStep, any], upper.NamesDistinct) ∧
      (textStep.overlayAll [listStep, any]).propertyNode? "run" = some (ofType .array) ∧
      (textStep.overlayAll [listStep, any]).propertyNode? "x-on" = some (ofType .string) ∧
      (textStep.overlayAll [listStep, any]).propertyNode? "with" = some (ofType .object) := by
  have distinct : ∀ upper ∈ [listStep, any], upper.NamesDistinct := by
    simp [NamesDistinct, listStep, any]
  have decided := fun key => (merged_layers_decide_property textStep distinct key).1
  refine ⟨distinct, ?_, ?_, ?_⟩
  · rw [decided]
    rfl
  · rw [decided]
    rfl
  · rw [decided]
    rfl

/-- Two branches with one pattern. -/
def extensionSource : Json :=
  let extensions (tag : String) : Json :=
    .object [("patternProperties", .object [("^x-", .object [("type", .string tag)])])]
  .object [("allOf", .array [extensions "string", extensions "object"])]

/-- Of two branches with one pattern the first one counts, not the last one. -/
theorem earlier_pattern_stays :
    ∃ schema early late, Schema.load extensionSource = .ok schema ∧
      schema.root.allOf = [early, late] ∧
      let layers := [schema.root.base, early, late]
      let merged := schema.root.base.overlayAll [early, late]
      merged.propertyNode? "x-on" = some (ofType .string) ∧
        nodeInLayers? layers (lastPatterned? layers "x-on") "x-on" = some (ofType .object) ∧
        merged.propertyNode? "x-on" ≠
          nodeInLayers? layers (lastPatterned? layers "x-on") "x-on" := by
  refine ⟨_, _, _, rfl, rfl, rfl, rfl, ?_⟩
  intro same
  have types := congrArg (Option.map (·.types)) same
  exact absurd types (by decide)

end Node

end Pipewright
