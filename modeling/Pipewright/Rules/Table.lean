import Pipewright.Counting
import Pipewright.Json.Text

/-!
# Shape rules

A rule says how a lone scalar under a property is lifted into the richer form
that means the same: an array of it, or an object that carries it under a field.
A table holds the rules by property name, in the order in which they were found.
-/

namespace Pipewright

/-- How a lone scalar is lifted. -/
inductive Rule where
  | promoteToArray
  | wrapInObject (field : String)
deriving DecidableEq, Repr

namespace Rule

/-- A rule as a document. -/
def toJson : Rule → Json
  | .promoteToArray => .object [("kind", .string "promote-to-array")]
  | .wrapInObject field =>
      .object [("kind", .string "wrap-in-object"), ("field", .string field)]

end Rule

/-- Rules by property name, each name once. -/
structure RuleTable where
  entries : List (String × Rule)
deriving DecidableEq, Repr

namespace RuleTable

/-- The table without rules. -/
def empty : RuleTable := ⟨[]⟩

/-- The rule of a property. -/
def get? (table : RuleTable) (property : String) : Option Rule :=
  table.entries.lookup property

/-- The properties that have a rule, in order. -/
def names (table : RuleTable) : List String :=
  table.entries.map (·.1)

/-- The number of rules. -/
def size (table : RuleTable) : Nat :=
  table.entries.length

/-- Are there no rules? -/
def isEmpty (table : RuleTable) : Bool :=
  table.entries.isEmpty

/-- Add a rule unless the property has one already. -/
def addIfAbsent (table : RuleTable) (property : String) (rule : Rule) : RuleTable :=
  if (table.get? property).isSome then table
  else ⟨table.entries ++ [(property, rule)]⟩

/-- Remove the rule of a property. -/
def erase (table : RuleTable) (property : String) : RuleTable :=
  ⟨table.entries.filter fun entry => entry.1 != property⟩

/-- The field under which a scalar of this property is wrapped: a link from the
property to the field. -/
def wrapField? (table : RuleTable) (property : String) : Option String :=
  match table.get? property with
  | some (.wrapInObject field) => some field
  | _ => none

/-- The fields that rules of the table wrap scalars under. -/
def wrapFields (table : RuleTable) : List String :=
  table.entries.filterMap fun entry =>
    match entry.2 with
    | .wrapInObject field => some field
    | .promoteToArray => none

/-- A table as a document. -/
def toJson (table : RuleTable) : Json :=
  .object (table.entries.map fun entry => (entry.1, entry.2.toJson))

/-- The field of a link is one of the fields of the table. -/
theorem mem_wrapFields_of_wrapField? {table : RuleTable} {property field : String}
    (linked : table.wrapField? property = some field) : field ∈ table.wrapFields := by
  unfold wrapField? get? at linked
  unfold wrapFields
  obtain ⟨entries⟩ := table
  simp only at linked ⊢
  induction entries with
  | nil => simp at linked
  | cons entry rest inner =>
      obtain ⟨name, rule⟩ := entry
      rw [List.lookup_cons] at linked
      by_cases same : (property == name) = true
      · simp only [same] at linked
        cases rule with
        | promoteToArray => cases linked
        | wrapInObject wrapped =>
            cases linked
            simp
      · simp only [same] at linked
        have later := inner linked
        rw [List.filterMap_cons]
        split
        · exact later
        · exact List.mem_cons_of_mem _ later

/-- Cut the link that leads from `current` back to a visited property.  Following
links from there either ends at a property without a link or closes a loop. -/
def cutFrom (table : RuleTable) (visited : List String) (current : String) : RuleTable :=
  match _linked : table.wrapField? current with
  | none => table
  | some field =>
      if visited.contains field then table.erase current
      else table.cutFrom (visited ++ [field]) field
termination_by table.wrapFields.countP fun field => !visited.contains field
decreasing_by
  exact countP_append_single_lt (mem_wrapFields_of_wrapField? (by assumption))
    (Bool.eq_false_iff.mpr (by assumption))

/-- Cut every loop of links, starting from each property in order. -/
def cutLoops (table : RuleTable) : RuleTable :=
  table.names.foldl (fun table name => table.cutFrom [name] name) table

end RuleTable

end Pipewright
