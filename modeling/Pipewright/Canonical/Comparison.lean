import Pipewright.Canonical.Normalize
import Pipewright.Digest.Sha256
import Pipewright.Rules.Cache
import Pipewright.Walk.Traversal

/-!
# Canonical documents and their comparison

The canonical form of a document is its normal form under the rules of a schema
that can be walked beside it.  Two documents are equivalent when the texts of
their canonical forms have the same digest.
-/

namespace Pipewright

namespace Canonical

/-- The canonical form of a document, with the cache after its use.  A document
that cannot be walked leaves the cache as it is. -/
def canonicalizeCached (cache : RuleCache) (document : Json) (schema : Schema)
    (wrapperFields : List String) : Resolved Json × RuleCache :=
  match checkDocument document schema with
  | .error cycle => (.error cycle, cache)
  | .ok () =>
      let (shared, cache) := cache.rulesFor schema wrapperFields
      (.ok (normalize shared.table document), cache)

/-- The canonical form of a document under a schema. -/
def canonicalize (document : Json) (schema : Schema) (wrapperFields : List String) :
    Resolved Json :=
  (canonicalizeCached RuleCache.empty document schema wrapperFields).1

/-- The digest of a document's compact text. -/
def digest (document : Json) : String :=
  Sha256.hexOfText document.compact

end Canonical

/-- The result of comparing two documents; the canonical forms of both are shown
when they differ. -/
structure Comparison where
  equivalent : Bool
  leftDigest : String
  rightDigest : String
  difference : Option (String × String)
deriving DecidableEq, Repr

namespace Comparison

/-- A comparison as a document. -/
def toJson (comparison : Comparison) : Json :=
  .object ([("equivalent", .boolean comparison.equivalent),
    ("digest_a", .string comparison.leftDigest),
    ("digest_b", .string comparison.rightDigest)] ++
    match comparison.difference with
    | some (left, right) =>
        [("diff", .object [("left", .string left), ("right", .string right)])]
    | none => [])

end Comparison

/-- Decides whether documents mean the same: with a schema documents are walked
first, and without one only key order and blanks in expressions are
normalized. -/
structure Comparer where
  schema : Option Schema
  rules : RuleTable

namespace Comparer

/-- Compare under the rules of a schema. -/
def ofSchema (schema : Schema) : Comparer :=
  ⟨some schema, schema.deriveRules standardWrapperFields⟩

/-- Compare without a schema. -/
def withoutSchema : Comparer :=
  ⟨none, RuleTable.empty⟩

/-- Compare under other rules. -/
def withRules (comparer : Comparer) (rules : RuleTable) : Comparer :=
  { comparer with rules := rules }

/-- The canonical form of a document. -/
def canonical (comparer : Comparer) (document : Json) : Resolved Json :=
  match comparer.schema with
  | none => .ok (Canonical.normalize comparer.rules document)
  | some schema =>
      (checkDocument document schema).map fun _ => Canonical.normalize comparer.rules document

/-- Compare two documents. -/
def compare (comparer : Comparer) (left right : Json) : Resolved Comparison := do
  let left ← comparer.canonical left
  let right ← comparer.canonical right
  let leftDigest := Canonical.digest left
  let rightDigest := Canonical.digest right
  let equivalent := leftDigest == rightDigest
  return {
    equivalent := equivalent
    leftDigest := leftDigest
    rightDigest := rightDigest
    difference := if equivalent then none else some (left.pretty, right.pretty) }

end Comparer

end Pipewright
