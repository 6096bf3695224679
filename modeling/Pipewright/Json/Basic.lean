import Pipewright.Number.Binary64

/-!
# Documents

A document is a JSON tree whose objects keep the order in which their keys were
written.  Integers and doubles are different numbers, also where they denote the
same quantity.
-/

namespace Pipewright

/-- A number is an integer of up to 64 bits or a finite double. -/
inductive Number where
  | integer (value : Int)
  | real (value : Binary64)
deriving DecidableEq, Repr, Inhabited

namespace Number

/-- Numeric equality within a kind; an integer never equals a double. -/
def same : Number → Number → Bool
  | .integer left, .integer right => left == right
  | .real left, .real right => left.same right
  | _, _ => false

/-- Does the number denote an integer? -/
def isIntegral : Number → Bool
  | .integer _ => true
  | .real value => value.isIntegral

end Number

/-- A JSON tree.  An object lists its members in order, each key once. -/
inductive Json where
  | null
  | boolean (value : Bool)
  | number (value : Number)
  | string (value : String)
  | array (items : List Json)
  | object (members : List (String × Json))
deriving Repr, Inhabited

/-- The members of an object, in order. -/
abbrev Members := List (String × Json)

/-- Put `value` under `key`: an existing key keeps its position, a new one goes
to the end. -/
def putEntry {α : Type} (entries : List (String × α)) (key : String) (value : α) :
    List (String × α) :=
  match entries with
  | [] => [(key, value)]
  | (present, old) :: rest =>
      if present = key then (present, value) :: rest
      else (present, old) :: putEntry rest key value

/-- The keyed entries of a list of pairs: of a repeated key the first position
and the last value count. -/
def entriesOf {α : Type} (pairs : List (String × α)) : List (String × α) :=
  pairs.foldl (fun entries pair => putEntry entries pair.1 pair.2) []

namespace Json

/-- Is this neither an object nor an array? -/
def isScalar : Json → Bool
  | .array _ => false
  | .object _ => false
  | _ => true

/-- The value under a key of an object. -/
def member? (document : Json) (key : String) : Option Json :=
  match document with
  | .object members => members.lookup key
  | _ => none

mutual

/-- Equality of documents: numbers compare within their kind, and the order of
an object's keys does not count. -/
def same : Json → Json → Bool
  | .null, .null => true
  | .boolean left, .boolean right => left == right
  | .number left, .number right => left.same right
  | .string left, .string right => left == right
  | .array left, .array right => sameItems left right
  | .object left, .object right => left.length == right.length && sameMembers left right
  | _, _ => false

/-- Element by element equality of two lists of documents. -/
def sameItems : List Json → List Json → Bool
  | [], [] => true
  | left :: lefts, right :: rights => same left right && sameItems lefts rights
  | _, _ => false

/-- Does every member on the left have an equal one of its key on the right? -/
def sameMembers : List (String × Json) → List (String × Json) → Bool
  | [], _ => true
  | (key, left) :: rest, members =>
      (match members.lookup key with
        | some right => same left right
        | none => false) && sameMembers rest members

end

end Json

end Pipewright
