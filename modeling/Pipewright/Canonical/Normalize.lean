import Pipewright.Expression
import Pipewright.Rules.Table

/-!
# Normal documents

Normalizing a document sorts the keys of its objects, lifts lone scalars as the
rules of their properties say, and collapses blanks inside expressions.  Arrays
keep their order.

A wrapped scalar stands under the rule's field, where that field's own rule
applies to it; lifting follows these links until it comes to a property without
one.
-/

namespace Pipewright

namespace Canonical

/-- A string with the blanks inside its expressions collapsed. -/
def tidy (text : String) : String :=
  String.ofList (tidyExpressions text.toList)

/-- Is this a value that rules lift?  `null` is not. -/
def isLiftable : Json → Bool
  | .string _ => true
  | .number _ => true
  | .boolean _ => true
  | _ => false

/-- Lift a scalar under a property.  `visited` are the properties whose links
were followed; a link back to one of them would be a loop and is not followed. -/
def liftFrom (table : RuleTable) (visited : List String) (property : String)
    (scalar : Json) : Json :=
  match table.get? property with
  | some .promoteToArray => .array [scalar]
  | _ =>
      match _linked : table.wrapField? property with
      | some field =>
          if visited.contains field then scalar
          else .object [(field, liftFrom table (visited ++ [field]) field scalar)]
      | none => scalar
termination_by table.wrapFields.countP fun field => !visited.contains field
decreasing_by
  exact countP_append_single_lt (RuleTable.mem_wrapFields_of_wrapField? (by assumption))
    (Bool.eq_false_iff.mpr (by assumption))

/-- Lift a scalar under a property. -/
def lift (table : RuleTable) (property : String) (scalar : Json) : Json :=
  liftFrom table [property] property scalar

/-- Put a member into a list that is sorted by key, before the first key that is
not smaller. -/
def insertMember (member : String × Json) : List (String × Json) → List (String × Json)
  | [] => [member]
  | first :: rest =>
      if member.1 ≤ first.1 then member :: first :: rest
      else first :: insertMember member rest

/-- The members in the order of their keys. -/
def sortMembers (members : List (String × Json)) : List (String × Json) :=
  members.foldr insertMember []

mutual

/-- The normal form of a document. -/
def normalize (table : RuleTable) : Json → Json
  | .object members => .object (sortMembers (normalizeMembers table members))
  | .array items => .array (normalizeItems table items)
  | .string text => .string (tidy text)
  | .null => .null
  | .boolean value => .boolean value
  | .number value => .number value

/-- The normal forms of the elements of an array. -/
def normalizeItems (table : RuleTable) : List Json → List Json
  | [] => []
  | item :: rest => normalize table item :: normalizeItems table rest

/-- The normal forms of the members of an object, lifted where they are
scalars. -/
def normalizeMembers (table : RuleTable) : List (String × Json) → List (String × Json)
  | [] => []
  | (key, value) :: rest =>
      let normal := normalize table value
      (key, if isLiftable value then lift table key normal else normal) ::
        normalizeMembers table rest

end

end Canonical

end Pipewright
