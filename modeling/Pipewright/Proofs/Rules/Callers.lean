import Mathlib.Logic.Function.Basic
import Pipewright.Canonical.Comparison

/-!
# Callers of the rule cache

Callers share one cache.  A call takes its steps one at a time, and the steps of other
callers may come between them: it looks its table up, and on a miss it derives a table and
inserts it unless somebody else has.  To canonicalize a document a caller walks it first.
Every step is recorded with what the caller gets to see.
-/

namespace Pipewright

namespace RuleCache

variable {cache : RuleCache} {key : RuleKey} {shared : SharedTable}

theorem insertIfAbsent_of_kept (kept : cache.lookup? key = some shared) (table : RuleTable) :
    cache.insertIfAbsent key table = (shared, cache) := by
  rw [insertIfAbsent, kept]

theorem insertIfAbsent_of_absent (absent : cache.lookup? key = none) (table : RuleTable) :
    cache.insertIfAbsent key table =
      (⟨cache.issued, table⟩,
        ⟨cache.entries ++ [(key, ⟨cache.issued, table⟩)], cache.issued + 1⟩) := by
  rw [insertIfAbsent, absent]

theorem rulesFor_of_kept {schema : Schema} {wrapperFields : List String}
    (kept : cache.lookup? (keyOf schema wrapperFields) = some shared) :
    cache.rulesFor schema wrapperFields = (shared, cache) := by
  simp only [rulesFor, kept]

theorem rulesFor_of_absent {schema : Schema} {wrapperFields : List String}
    (absent : cache.lookup? (keyOf schema wrapperFields) = none) :
    cache.rulesFor schema wrapperFields =
      cache.insertIfAbsent (keyOf schema wrapperFields) (schema.deriveRules wrapperFields) := by
  simp only [rulesFor, absent]

theorem not_mem_keys_of_absent (absent : cache.lookup? key = none) :
    key ∉ cache.entries.map (·.1) := by
  intro mem
  obtain ⟨entry, kept, same⟩ := List.mem_map.mp mem
  have different := List.lookup_eq_none_iff.mp absent entry kept
  rw [same] at different
  simp at different

end RuleCache

/-- A schema together with the document that it was loaded from. -/
structure LoadedSchema where
  source : Json
  schema : Schema
  loaded : Schema.load source = .ok schema

theorem LoadedSchema.id_eq (origin : LoadedSchema) :
    origin.schema.id = Sha256.hexOfText origin.source.compact := by
  obtain ⟨source, schema, loaded⟩ := origin
  unfold Schema.load at loaded
  split at loaded
  · cases loaded
    rfl
  · cases loaded

/-- A call that needs a rule table, either as its result or to canonicalize a document. -/
structure TableRequest where
  origin : LoadedSchema
  wrapperFields : List String
  document : Option Json

namespace TableRequest

/-- The key under which the cache keeps the table. -/
def key (request : TableRequest) : RuleKey :=
  RuleCache.keyOf request.origin.schema request.wrapperFields

/-- The table that the schema derives. -/
def rules (request : TableRequest) : RuleTable :=
  request.origin.schema.deriveRules request.wrapperFields

/-- The document, if there is one, can be walked. -/
def Walked (request : TableRequest) : Prop :=
  ∀ document, request.document = some document →
    checkDocument document request.origin.schema = .ok ()

end TableRequest

/-- Where a caller stands between two steps. -/
inductive CallerPhase where
  | idle
  | lookingUp (request : TableRequest)
  | inserting (request : TableRequest)

/-- The request that a caller has under way. -/
def CallerPhase.request? : CallerPhase → Option TableRequest
  | .idle => none
  | .lookingUp request => some request
  | .inserting request => some request

/-- The cache and where its callers stand. -/
structure CacheSystem (Caller : Type) where
  cache : RuleCache
  phase : Caller → CallerPhase

/-- What a step shows. -/
inductive CacheEvent (Caller : Type) where
  | called (caller : Caller) (request : TableRequest)
  | failed (caller : Caller) (request : TableRequest) (cycle : CyclicReference)
  | found (caller : Caller) (request : TableRequest) (shared : SharedTable)
  | missed (caller : Caller) (request : TableRequest)
  | inserted (caller : Caller) (request : TableRequest) (shared : SharedTable)
  | cleared (caller : Caller)
  | counted (caller : Caller) (number : Nat)

namespace CacheSystem

variable {Caller : Type}

/-- An empty cache and idle callers. -/
def start : CacheSystem Caller :=
  ⟨RuleCache.empty, fun _ => .idle⟩

variable [DecidableEq Caller]

/-- The system after a step of one caller. -/
def after (system : CacheSystem Caller) (caller : Caller) (phase : CallerPhase)
    (cache : RuleCache) : CacheSystem Caller :=
  ⟨cache, Function.update system.phase caller phase⟩

theorem after_phase_self (system : CacheSystem Caller) (caller : Caller) (phase : CallerPhase)
    (cache : RuleCache) : (system.after caller phase cache).phase caller = phase :=
  Function.update_self ..

theorem after_phase_of_ne (system : CacheSystem Caller) {caller other : Caller}
    (different : other ≠ caller) (phase : CallerPhase) (cache : RuleCache) :
    (system.after caller phase cache).phase other = system.phase other :=
  Function.update_of_ne different ..

/-- The steps of a system. -/
inductive Step : CacheSystem Caller → CacheEvent Caller → CacheSystem Caller → Prop where
  | called {system : CacheSystem Caller} {caller : Caller} {request : TableRequest} :
      system.phase caller = .idle → request.Walked →
      Step system (.called caller request)
        (system.after caller (.lookingUp request) system.cache)
  | failed {system : CacheSystem Caller} {caller : Caller} {request : TableRequest}
      {document : Json} {cycle : CyclicReference} {cache : RuleCache} :
      system.phase caller = .idle → request.document = some document →
      Canonical.canonicalizeCached system.cache document request.origin.schema
        request.wrapperFields = (.error cycle, cache) →
      Step system (.failed caller request cycle) (system.after caller .idle cache)
  | found {system : CacheSystem Caller} {caller : Caller} {request : TableRequest}
      {shared : SharedTable} :
      system.phase caller = .lookingUp request →
      system.cache.lookup? request.key = some shared →
      Step system (.found caller request shared) (system.after caller .idle system.cache)
  | missed {system : CacheSystem Caller} {caller : Caller} {request : TableRequest} :
      system.phase caller = .lookingUp request →
      system.cache.lookup? request.key = none →
      Step system (.missed caller request)
        (system.after caller (.inserting request) system.cache)
  | inserted {system : CacheSystem Caller} {caller : Caller} {request : TableRequest}
      {shared : SharedTable} {cache : RuleCache} :
      system.phase caller = .inserting request →
      system.cache.insertIfAbsent request.key request.rules = (shared, cache) →
      Step system (.inserted caller request shared) (system.after caller .idle cache)
  | cleared {system : CacheSystem Caller} {caller : Caller} :
      system.phase caller = .idle →
      Step system (.cleared caller) (system.after caller .idle system.cache.clear)
  | counted {system : CacheSystem Caller} {caller : Caller} :
      system.phase caller = .idle →
      Step system (.counted caller system.cache.size)
        (system.after caller .idle system.cache)

/-- The runs from the start, with what their steps showed in order. -/
inductive Run : List (CacheEvent Caller) → CacheSystem Caller → Prop where
  | start : Run [] start
  | step {trace : List (CacheEvent Caller)} {system next : CacheSystem Caller}
      {event : CacheEvent Caller} :
      Run trace system → Step system event next → Run (trace ++ [event]) next

/-- A run through an event passes the system right before it and right after it. -/
theorem Run.split {before later : List (CacheEvent Caller)} {event : CacheEvent Caller}
    {system : CacheSystem Caller} (run : Run (before ++ event :: later) system) :
    ∃ earlier next, Run before earlier ∧ Step earlier event next := by
  -- a run grows at its end: its last event is the one in question, or it is dropped
  generalize whole : before ++ event :: later = trace at run
  induction run generalizing later with
  | start => simp at whole
  | @step trace earlier next last run step inner =>
      rcases List.eq_nil_or_concat later with rfl | ⟨init, final, rfl⟩
      · obtain ⟨rfl, same⟩ := List.append_inj' whole rfl
        cases same
        exact ⟨earlier, next, run, step⟩
      · have shifted : (before ++ event :: init) ++ [final] = trace ++ [last] := by
          simpa using whole
        exact inner (List.append_inj' shifted rfl).1

/-- A caller that nobody disturbs gets the table that `rulesFor` returns, and leaves the
cache as `rulesFor` does. -/
theorem rulesFor_of_undisturbed {system : CacheSystem Caller} {caller : Caller}
    {request : TableRequest} (ready : system.phase caller = .lookingUp request) :
    let outcome := system.cache.rulesFor request.origin.schema request.wrapperFields
    Step system (.found caller request outcome.1) (system.after caller .idle outcome.2) ∨
      ∃ between, Step system (.missed caller request) between ∧
        Step between (.inserted caller request outcome.1)
          (between.after caller .idle outcome.2) := by
  intro outcome
  cases kept : system.cache.lookup? request.key with
  | some shared =>
      have returned : outcome = (shared, system.cache) := RuleCache.rulesFor_of_kept kept
      rw [returned]
      exact .inl (.found ready kept)
  | none =>
      have returned : outcome = system.cache.insertIfAbsent request.key request.rules :=
        RuleCache.rulesFor_of_absent kept
      refine .inr ⟨_, .missed ready kept, .inserted (after_phase_self ..) ?_⟩
      rw [returned]
      rfl

end CacheSystem

end Pipewright
