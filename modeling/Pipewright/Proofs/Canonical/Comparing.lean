import Pipewright.Canonical.Comparison

/-!
# Canonicalizing and comparing documents

Canonicalizing fails where a document cannot be walked, and otherwise it normalizes.  A
comparison fails where one of the documents cannot be walked, and otherwise it shows the
canonical texts of both where their digests differ.
-/

namespace Pipewright

namespace Canonical

variable {schema : Schema} {wrapperFields : List String}

theorem canonicalize_eq (document : Json) (schema : Schema) (wrapperFields : List String) :
    canonicalize document schema wrapperFields =
      (checkDocument document schema).map fun _ =>
        normalize (schema.deriveRules wrapperFields) document := by
  unfold canonicalize canonicalizeCached
  cases checkDocument document schema <;> rfl

theorem canonicalize_of_checked {document : Json}
    (checked : checkDocument document schema = .ok ()) :
    canonicalize document schema wrapperFields =
      .ok (normalize (schema.deriveRules wrapperFields) document) := by
  rw [canonicalize_eq, checked]
  rfl

theorem checked_of_canonicalize {document canonical : Json}
    (canonicalized : canonicalize document schema wrapperFields = .ok canonical) :
    checkDocument document schema = .ok () ∧
      canonical = normalize (schema.deriveRules wrapperFields) document := by
  rw [canonicalize_eq] at canonicalized
  cases checked : checkDocument document schema with
  | error cycle =>
      rw [checked] at canonicalized
      cases canonicalized
  | ok _ =>
      rw [checked] at canonicalized
      cases canonicalized
      exact ⟨rfl, rfl⟩

/-- Where canonicalizing fails the cache stays as it was. -/
theorem canonicalizeCached_eq_error {cache cache' : RuleCache} {document : Json}
    {cycle : CyclicReference}
    (failed : canonicalizeCached cache document schema wrapperFields = (.error cycle, cache')) :
    checkDocument document schema = .error cycle ∧ cache' = cache := by
  unfold canonicalizeCached at failed
  cases checked : checkDocument document schema with
  | error found =>
      rw [checked] at failed
      cases failed
      exact ⟨rfl, rfl⟩
  | ok _ =>
      rw [checked] at failed
      cases failed

end Canonical

namespace Comparer

variable {comparer : Comparer} {left right : Json} {cycle : CyclicReference}

/-- Can the document be walked beside the schema, if there is one? -/
def check (comparer : Comparer) (document : Json) : Resolved Unit :=
  match comparer.schema with
  | none => .ok ()
  | some schema => checkDocument document schema

/-- The comparison of two canonical documents. -/
def weigh (left right : Json) : Comparison :=
  let equivalent := Canonical.digest left == Canonical.digest right
  ⟨equivalent, Canonical.digest left, Canonical.digest right,
    if equivalent then none else some (left.pretty, right.pretty)⟩

theorem canonical_eq (document : Json) :
    comparer.canonical document =
      (comparer.check document).map fun _ => Canonical.normalize comparer.rules document := by
  unfold canonical check
  cases comparer.schema <;> rfl

theorem compare_of_checked (leftChecked : comparer.check left = .ok ())
    (rightChecked : comparer.check right = .ok ()) :
    comparer.compare left right =
      .ok (weigh (Canonical.normalize comparer.rules left)
        (Canonical.normalize comparer.rules right)) := by
  rw [compare, canonical_eq, canonical_eq, leftChecked, rightChecked]
  rfl

theorem compare_of_left_error (failed : comparer.check left = .error cycle) :
    comparer.compare left right = .error cycle := by
  rw [compare, canonical_eq, failed]
  rfl

theorem compare_of_right_error (leftChecked : comparer.check left = .ok ())
    (failed : comparer.check right = .error cycle) :
    comparer.compare left right = .error cycle := by
  rw [compare, canonical_eq, canonical_eq, leftChecked, failed]
  rfl

/-- A comparison fails with the cycle of the left document, or with that of the right one if
the left one can be walked. -/
theorem compare_eq_error_iff {cycle : CyclicReference} :
    comparer.compare left right = .error cycle ↔
      comparer.check left = .error cycle ∨
        (comparer.check left = .ok () ∧ comparer.check right = .error cycle) := by
  cases leftChecked : comparer.check left with
  | error found =>
      rw [compare_of_left_error leftChecked]
      simp
  | ok _ =>
      cases rightChecked : comparer.check right with
      | error found =>
          rw [compare_of_right_error leftChecked rightChecked]
          simp
      | ok _ =>
          rw [compare_of_checked leftChecked rightChecked]
          simp

theorem compare_eq_ok_iff {comparison : Comparison} :
    comparer.compare left right = .ok comparison ↔
      comparer.check left = .ok () ∧ comparer.check right = .ok () ∧
        comparison = weigh (Canonical.normalize comparer.rules left)
          (Canonical.normalize comparer.rules right) := by
  cases leftChecked : comparer.check left with
  | error found =>
      rw [compare_of_left_error leftChecked]
      simp
  | ok _ =>
      cases rightChecked : comparer.check right with
      | error found =>
          rw [compare_of_right_error leftChecked rightChecked]
          simp
      | ok _ =>
          rw [compare_of_checked leftChecked rightChecked]
          simp [eq_comm]

theorem weigh_difference_isSome (left right : Json) :
    (weigh left right).difference.isSome = !(weigh left right).equivalent := by
  unfold weigh
  cases Canonical.digest left == Canonical.digest right <;> rfl

end Comparer

end Pipewright
