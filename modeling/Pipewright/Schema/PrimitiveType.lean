import Pipewright.Json.Basic

/-!
# Primitive types

The seven type tags of a schema and the values they admit.
-/

namespace Pipewright

/-- A type tag. -/
inductive PrimitiveType where
  | null
  | boolean
  | object
  | array
  | number
  | integer
  | string
deriving DecidableEq, Repr, Inhabited

namespace PrimitiveType

/-- Every tag, in the order of declaration. -/
def all : List PrimitiveType :=
  [.null, .boolean, .object, .array, .number, .integer, .string]

/-- The name of a tag in a schema. -/
def name : PrimitiveType → String
  | .null => "null"
  | .boolean => "boolean"
  | .object => "object"
  | .array => "array"
  | .number => "number"
  | .integer => "integer"
  | .string => "string"

/-- The tag of a name. -/
def ofName? (name : String) : Option PrimitiveType :=
  all.find? (·.name == name)

/-- Is the value of this type?  Numbers without a fractional part are integers
too. -/
def admits : PrimitiveType → Json → Bool
  | .null, .null => true
  | .boolean, .boolean _ => true
  | .object, .object _ => true
  | .array, .array _ => true
  | .number, .number _ => true
  | .integer, .number value => value.isIntegral
  | .string, .string _ => true
  | _, _ => false

/-- Can a lone value of this type stand for a collection or an object? -/
def isPromotable : PrimitiveType → Bool
  | .boolean => true
  | .number => true
  | .integer => true
  | .string => true
  | _ => false

/-- Equality, except that integers and numbers go together. -/
def compatible (left right : PrimitiveType) : Bool :=
  match left, right with
  | .number, .integer => true
  | .integer, .number => true
  | left, right => left == right

end PrimitiveType

end Pipewright
