import Pipewright.Rules.Derivation

/-!
# Cached rule tables

Rule tables are kept by schema identity and wrapper fields and shared among their
users.  A use of the cache takes two steps that other users may come between:
looking a table up, and inserting a derived one unless somebody else has.
-/

namespace Pipewright

/-- What a cached table belongs to. -/
structure RuleKey where
  schemaId : String
  wrapperFields : List String
deriving DecidableEq, Repr

/-- A shared table: equal handles mean the very same table. -/
structure SharedTable where
  handle : Nat
  table : RuleTable
deriving DecidableEq, Repr

/-- The cached tables and the number of handles given out. -/
structure RuleCache where
  entries : List (RuleKey × SharedTable)
  issued : Nat
deriving DecidableEq, Repr

namespace RuleCache

/-- No tables. -/
def empty : RuleCache := ⟨[], 0⟩

/-- The key of a schema's table. -/
def keyOf (schema : Schema) (wrapperFields : List String) : RuleKey :=
  ⟨schema.id, wrapperFields⟩

/-- Look a table up. -/
def lookup? (cache : RuleCache) (key : RuleKey) : Option SharedTable :=
  cache.entries.lookup key

/-- Insert a table unless its key has one; the one that is there is shared. -/
def insertIfAbsent (cache : RuleCache) (key : RuleKey) (table : RuleTable) :
    SharedTable × RuleCache :=
  match cache.lookup? key with
  | some shared => (shared, cache)
  | none =>
      let shared : SharedTable := ⟨cache.issued, table⟩
      (shared, ⟨cache.entries ++ [(key, shared)], cache.issued + 1⟩)

/-- The table of a schema: look it up, and on a miss derive and insert it. -/
def rulesFor (cache : RuleCache) (schema : Schema) (wrapperFields : List String) :
    SharedTable × RuleCache :=
  let key := keyOf schema wrapperFields
  match cache.lookup? key with
  | some shared => (shared, cache)
  | none => cache.insertIfAbsent key (schema.deriveRules wrapperFields)

/-- Drop every table.  Handles are never given out again. -/
def clear (cache : RuleCache) : RuleCache :=
  ⟨[], cache.issued⟩

/-- The number of cached tables. -/
def size (cache : RuleCache) : Nat :=
  cache.entries.length

end RuleCache

end Pipewright
