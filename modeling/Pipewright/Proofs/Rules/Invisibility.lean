import Mathlib.Data.List.Dedup
import Mathlib.Data.List.Induction
import Pipewright.Proofs.Canonical.Comparing
import Pipewright.Proofs.Canonical.Identification
import Pipewright.Proofs.Json.Keys
import Pipewright.Proofs.Resolution.Acyclic
import Pipewright.Proofs.Rules.Callers
import Pipewright.Proofs.Rules.TextDependence

/-!
# The rule cache is invisible

Whatever the order of their steps, callers get the tables that their schemas derive, and
between two clears all callers of one key get the very same table.  The invariant relates
the cache to the record of the run: it keeps exactly the tables that were given out since
the last clear, each derived for a request of its key.
-/

namespace Pipewright

namespace CacheEvent

variable {Caller : Type}

/-- The request that a step answers, with the table that the caller gets. -/
def answered? : CacheEvent Caller → Option (TableRequest × SharedTable)
  | .found _ request shared => some (request, shared)
  | .inserted _ request shared => some (request, shared)
  | _ => none

/-- The table that a caller gets in a step, with its key. -/
def given? (event : CacheEvent Caller) : Option (RuleKey × SharedTable) :=
  event.answered?.map fun answer => (answer.1.key, answer.2)

/-- The request of a call that begins. -/
def request? : CacheEvent Caller → Option TableRequest
  | .called _ request => some request
  | _ => none

/-- The key of an insertion. -/
def insertedKey? : CacheEvent Caller → Option RuleKey
  | .inserted _ request _ => some request.key
  | _ => none

/-- Does the step clear the cache? -/
def clears : CacheEvent Caller → Bool
  | .cleared _ => true
  | _ => false

/-- The requests of a run. -/
def requests (trace : List (CacheEvent Caller)) : List TableRequest :=
  trace.filterMap request?

/-- The tables that were given out in a run, with their keys. -/
def given (trace : List (CacheEvent Caller)) : List (RuleKey × SharedTable) :=
  trace.filterMap given?

/-- The keys that were inserted in a run, one for each insertion. -/
def insertedKeys (trace : List (CacheEvent Caller)) : List RuleKey :=
  trace.filterMap insertedKey?

/-- The events since the last clear, after one more event. -/
def logSince (log : List (CacheEvent Caller)) (event : CacheEvent Caller) :
    List (CacheEvent Caller) :=
  if event.clears then [] else log ++ [event]

/-- The events since the last clear. -/
def sinceClear (trace : List (CacheEvent Caller)) : List (CacheEvent Caller) :=
  trace.foldl logSince []

/-- The texts of the schemas of a run have digests of their own. -/
def NoCollision (trace : List (CacheEvent Caller)) : Prop :=
  ∀ request ∈ requests trace, ∀ other ∈ requests trace,
    Sha256.hexOfText request.origin.source.compact = Sha256.hexOfText other.origin.source.compact →
      request.origin.source.compact = other.origin.source.compact

variable {trace between : List (CacheEvent Caller)} {event : CacheEvent Caller}

theorem sinceClear_of_clears (clearing : event.clears = true) :
    sinceClear (trace ++ [event]) = [] := by
  rw [sinceClear, List.foldl_append, List.foldl_cons, List.foldl_nil, logSince, if_pos clearing]

theorem sinceClear_of_keeps (keeps : event.clears = false) :
    sinceClear (trace ++ [event]) = sinceClear trace ++ [event] := by
  rw [sinceClear, List.foldl_append, List.foldl_cons, List.foldl_nil, logSince, keeps]
  rfl

theorem mem_of_mem_sinceClear (mem : event ∈ sinceClear trace) : event ∈ trace := by
  induction trace using List.reverseRecOn with
  | nil => cases mem
  | append_singleton trace last inner =>
      cases clearing : last.clears with
      | true =>
          rw [sinceClear_of_clears clearing] at mem
          cases mem
      | false =>
          rw [sinceClear_of_keeps clearing] at mem
          rcases List.mem_append.mp mem with old | new
          · exact List.mem_append_left _ (inner old)
          · exact List.mem_append_right _ new

/-- An event is among those since the last clear as long as no clear follows it. -/
theorem mem_sinceClear (keeps : event.clears = false)
    (noClear : ∀ later ∈ between, later.clears = false) :
    event ∈ sinceClear (trace ++ event :: between) := by
  induction between using List.reverseRecOn with
  | nil =>
      rw [sinceClear_of_keeps keeps]
      exact List.mem_append_right _ (List.mem_singleton_self event)
  | append_singleton between last inner =>
      obtain ⟨others, lastKeeps⟩ := List.forall_mem_append.mp noClear
      have shape : trace ++ event :: (between ++ [last]) =
          (trace ++ event :: between) ++ [last] := by simp
      rw [shape, sinceClear_of_keeps (lastKeeps last (List.mem_singleton_self last))]
      exact List.mem_append_left _ (inner others)

theorem given_concat (trace : List (CacheEvent Caller)) (event : CacheEvent Caller) :
    given (trace ++ [event]) = given trace ++ event.given?.toList := by
  rw [given, given, List.filterMap_append]
  cases gives : event.given? <;> simp [gives]

theorem insertedKeys_concat (trace : List (CacheEvent Caller)) (event : CacheEvent Caller) :
    insertedKeys (trace ++ [event]) = insertedKeys trace ++ event.insertedKey?.toList := by
  rw [insertedKeys, insertedKeys, List.filterMap_append]
  cases inserts : event.insertedKey? <;> simp [inserts]

theorem requests_subset_concat (trace : List (CacheEvent Caller)) (event : CacheEvent Caller) :
    requests trace ⊆ requests (trace ++ [event]) := by
  rw [requests, requests, List.filterMap_append]
  exact List.subset_append_left _ _

theorem given_sinceClear_subset : given (sinceClear trace) ⊆ given trace := by
  intro pair mem
  obtain ⟨event, recent, gives⟩ := List.mem_filterMap.mp mem
  exact List.mem_filterMap.mpr ⟨event, mem_of_mem_sinceClear recent, gives⟩

theorem mem_given (mem : event ∈ trace) {request : TableRequest}
    {shared : SharedTable} (answers : event.answered? = some (request, shared)) :
    (request.key, shared) ∈ given trace := by
  apply List.mem_filterMap.mpr
  refine ⟨event, mem, ?_⟩
  rw [given?, answers]
  rfl

theorem clears_of_answered {answer : TableRequest × SharedTable}
    (answers : event.answered? = some answer) : event.clears = false := by
  cases event with
  | cleared _ => cases answers
  | _ => rfl

/-- Requests of one key derive the same rules. -/
theorem rules_eq_of_key_eq (noCollision : NoCollision trace) {request other : TableRequest}
    (asked : request ∈ requests trace) (askedOther : other ∈ requests trace)
    (sameKey : request.key = other.key) : request.rules = other.rules := by
  injection sameKey with sameId sameFields
  have sameText : request.origin.source.compact = other.origin.source.compact := by
    apply noCollision request asked other askedOther
    rw [← request.origin.id_eq, ← other.origin.id_eq]
    exact sameId
  rw [TableRequest.rules, TableRequest.rules, sameFields]
  exact Schema.deriveRules_eq_of_compact_eq request.origin.loaded other.origin.loaded sameText _

end CacheEvent

/-! ## The invariant -/

namespace CacheSystem

open CacheEvent

variable {Caller : Type} {trace : List (CacheEvent Caller)} {system : CacheSystem Caller}

/-- How the cache and its callers agree with what a run has shown. -/
structure Agrees (trace : List (CacheEvent Caller)) (system : CacheSystem Caller) : Prop where
  pending : ∀ caller request, (system.phase caller).request? = some request →
    request ∈ requests trace ∧ request.Walked
  kept : ∀ pair, pair ∈ system.cache.entries ↔ pair ∈ given (sinceClear trace)
  distinct : (system.cache.entries.map (·.1)).Nodup
  inserted : ∀ key, key ∈ system.cache.entries.map (·.1) ↔ key ∈ insertedKeys (sinceClear trace)
  derived : ∀ pair ∈ given trace,
    ∃ request ∈ requests trace, request.key = pair.1 ∧ pair.2.table = request.rules
  issued : ∀ pair ∈ given trace, pair.2.handle < system.cache.issued
  unique : ∀ pair ∈ given trace, ∀ other ∈ given trace,
    pair.2.handle = other.2.handle → pair = other

namespace Agrees

variable {event : CacheEvent Caller} {next : CacheSystem Caller}

/-- What a step has to bring for the requests under way. -/
abbrev Pending (trace : List (CacheEvent Caller)) (system : CacheSystem Caller) : Prop :=
  ∀ caller request, (system.phase caller).request? = some request →
    request ∈ requests trace ∧ request.Walked

theorem derived_after (agrees : Agrees trace system) (event : CacheEvent Caller) :
    ∀ pair ∈ given trace,
      ∃ request ∈ requests (trace ++ [event]),
        request.key = pair.1 ∧ pair.2.table = request.rules := by
  intro pair mem
  obtain ⟨request, asked, meets⟩ := agrees.derived pair mem
  exact ⟨request, requests_subset_concat trace event asked, meets⟩

/-- Steps that leave the cache alone and give nothing out. -/
theorem quiet (agrees : Agrees trace system) (pending : Pending (trace ++ [event]) next)
    (sameCache : next.cache = system.cache) (keeps : event.clears = false)
    (givesNothing : event.given? = none) (insertsNothing : event.insertedKey? = none) :
    Agrees (trace ++ [event]) next := by
  have sameGiven : ∀ log, given (log ++ [event]) = given log := by
    intro log
    rw [given_concat, givesNothing]
    exact List.append_nil _
  have sameKeys : ∀ log, insertedKeys (log ++ [event]) = insertedKeys log := by
    intro log
    rw [insertedKeys_concat, insertsNothing]
    exact List.append_nil _
  refine ⟨pending, ?_, ?_, ?_, ?_, ?_, ?_⟩
  · rw [sameCache, sinceClear_of_keeps keeps, sameGiven]
    exact agrees.kept
  · rw [sameCache]
    exact agrees.distinct
  · rw [sameCache, sinceClear_of_keeps keeps, sameKeys]
    exact agrees.inserted
  · rw [sameGiven]
    exact agrees.derived_after event
  · rw [sameGiven, sameCache]
    exact agrees.issued
  · rw [sameGiven]
    exact agrees.unique

/-- Steps that give a kept table out once more. -/
theorem gives_kept (agrees : Agrees trace system) (pending : Pending (trace ++ [event]) next)
    (sameCache : next.cache = system.cache) (keeps : event.clears = false)
    {pair : RuleKey × SharedTable} (gives : event.given? = some pair)
    (isKept : pair ∈ system.cache.entries)
    (inserts : ∀ key, event.insertedKey? = some key → key = pair.1) :
    Agrees (trace ++ [event]) next := by
  have recent := (agrees.kept pair).mp isKept
  have already := given_sinceClear_subset recent
  have moreGiven : ∀ log, given (log ++ [event]) = given log ++ [pair] := by
    intro log
    rw [given_concat, gives]
    rfl
  -- the table was given out before, so whatever holds of all that were still does
  have forGiven : ∀ {property : RuleKey × SharedTable → Prop},
      (∀ given_ ∈ given trace, property given_) →
        ∀ given_ ∈ given (trace ++ [event]), property given_ := by
    intro property holds given_ mem
    rw [moreGiven] at mem
    rcases List.mem_append.mp mem with old | new
    · exact holds given_ old
    · rw [List.mem_singleton.mp new]
      exact holds pair already
  refine ⟨pending, ?_, ?_, ?_, ?_, ?_, ?_⟩
  · intro other
    rw [sameCache, sinceClear_of_keeps keeps, moreGiven, List.mem_append, List.mem_singleton,
      agrees.kept]
    constructor
    · exact .inl
    · rintro (old | rfl)
      · exact old
      · exact recent
  · rw [sameCache]
    exact agrees.distinct
  · intro key
    rw [sameCache, sinceClear_of_keeps keeps, insertedKeys_concat, List.mem_append,
      agrees.inserted]
    constructor
    · exact .inl
    · rintro (old | new)
      · exact old
      · have isKey := inserts key (by simpa using new)
        rw [isKey]
        exact (agrees.inserted pair.1).mp (List.mem_map_of_mem isKept)
  · exact forGiven (agrees.derived_after event)
  · rw [sameCache]
    exact forGiven agrees.issued
  · apply forGiven
    intro given_ mem
    apply forGiven
    exact agrees.unique given_ mem

/-- Clearing forgets what was given out before. -/
theorem clear (agrees : Agrees trace system) (pending : Pending (trace ++ [event]) next)
    (cleared : next.cache = system.cache.clear) (clearing : event.clears = true)
    (givesNothing : event.given? = none) : Agrees (trace ++ [event]) next := by
  have sameGiven : given (trace ++ [event]) = given trace := by
    rw [given_concat, givesNothing]
    exact List.append_nil _
  refine ⟨pending, ?_, ?_, ?_, ?_, ?_, ?_⟩
  · rw [cleared, sinceClear_of_clears clearing]
    exact fun _ => Iff.rfl
  · rw [cleared]
    exact List.nodup_nil
  · rw [cleared, sinceClear_of_clears clearing]
    exact fun _ => Iff.rfl
  · rw [sameGiven]
    exact agrees.derived_after event
  · rw [sameGiven, cleared]
    exact agrees.issued
  · rw [sameGiven]
    exact agrees.unique

/-- An insertion under a key that has no table keeps the new table and gives it out. -/
theorem inserts_new (agrees : Agrees trace system) (pending : Pending (trace ++ [event]) next)
    (keeps : event.clears = false) {request : TableRequest}
    (asked : request ∈ requests trace)
    (absent : system.cache.lookup? request.key = none)
    (grown : next.cache =
      ⟨system.cache.entries ++ [(request.key, ⟨system.cache.issued, request.rules⟩)],
        system.cache.issued + 1⟩)
    (gives : event.given? = some (request.key, ⟨system.cache.issued, request.rules⟩))
    (inserts : event.insertedKey? = some request.key) :
    Agrees (trace ++ [event]) next := by
  have moreGiven : ∀ log, given (log ++ [event]) =
      given log ++ [(request.key, ⟨system.cache.issued, request.rules⟩)] := by
    intro log
    rw [given_concat, gives]
    rfl
  refine ⟨pending, ?_, ?_, ?_, ?_, ?_, ?_⟩
  · intro other
    rw [grown, sinceClear_of_keeps keeps, moreGiven, List.mem_append, List.mem_append,
      agrees.kept]
  · rw [grown, List.map_append]
    apply List.nodup_append.mpr
    refine ⟨agrees.distinct, List.nodup_singleton _, ?_⟩
    intro key mem new isNew same
    rw [List.mem_singleton.mp isNew] at same
    rw [same] at mem
    exact RuleCache.not_mem_keys_of_absent absent mem
  · intro key
    rw [grown, sinceClear_of_keeps keeps, insertedKeys_concat, inserts, List.map_append,
      List.mem_append, List.mem_append, agrees.inserted]
    rfl
  · intro pair mem
    rw [moreGiven] at mem
    rcases List.mem_append.mp mem with old | new
    · exact agrees.derived_after event pair old
    · rw [List.mem_singleton.mp new]
      exact ⟨request, requests_subset_concat trace event asked, rfl, rfl⟩
  · intro pair mem
    rw [moreGiven] at mem
    rw [grown]
    rcases List.mem_append.mp mem with old | new
    · exact Nat.lt_succ_of_lt (agrees.issued pair old)
    · rw [List.mem_singleton.mp new]
      exact Nat.lt_succ_self _
  -- all handles so far are smaller than the new one
  · intro pair mem other memOther sameHandle
    rw [moreGiven] at mem memOther
    rcases List.mem_append.mp mem with old | new
    · rcases List.mem_append.mp memOther with oldOther | newOther
      · exact agrees.unique pair old other oldOther sameHandle
      · rw [List.mem_singleton.mp newOther] at sameHandle
        exact absurd sameHandle (Nat.ne_of_lt (agrees.issued pair old))
    · rw [List.mem_singleton.mp new] at sameHandle ⊢
      rcases List.mem_append.mp memOther with oldOther | newOther
      · exact absurd sameHandle (Nat.ne_of_gt (agrees.issued other oldOther))
      · exact (List.mem_singleton.mp newOther).symm

end Agrees

theorem agrees_start : Agrees [] (start : CacheSystem Caller) := by
  refine ⟨?_, ?_, List.nodup_nil, ?_, ?_, ?_, ?_⟩
  · intro _ _ underWay
    cases underWay
  · exact fun _ => Iff.rfl
  · exact fun _ => Iff.rfl
  · intro _ mem
    cases mem
  · intro _ mem
    cases mem
  · intro _ mem
    cases mem

variable [DecidableEq Caller]

theorem Agrees.pending_after (agrees : Agrees trace system) {event : CacheEvent Caller}
    {caller : Caller} {phase : CallerPhase} {cache : RuleCache}
    (own : ∀ request, phase.request? = some request →
      request ∈ requests (trace ++ [event]) ∧ request.Walked) :
    Agrees.Pending (trace ++ [event]) (system.after caller phase cache) := by
  intro other request underWay
  by_cases same : other = caller
  · subst same
    rw [after_phase_self] at underWay
    exact own request underWay
  · rw [after_phase_of_ne system same] at underWay
    obtain ⟨asked, walked⟩ := agrees.pending other request underWay
    exact ⟨requests_subset_concat trace event asked, walked⟩

/-- Every step keeps the agreement. -/
theorem Agrees.step (agrees : Agrees trace system) {event : CacheEvent Caller}
    {next : CacheSystem Caller} (step : Step system event next) :
    Agrees (trace ++ [event]) next := by
  have idle : ∀ request, CallerPhase.idle.request? = some request →
      request ∈ requests (trace ++ [event]) ∧ request.Walked := by
    intro _ underWay
    cases underWay
  cases step with
  | @called caller request _ walked =>
      refine agrees.quiet (agrees.pending_after ?_) rfl rfl rfl rfl
      rintro _ ⟨⟩
      refine ⟨?_, walked⟩
      simp [requests, request?]
  | @failed caller request document cycle cache _ _ fails =>
      obtain ⟨_, rfl⟩ := Canonical.canonicalizeCached_eq_error fails
      exact agrees.quiet (agrees.pending_after idle) rfl rfl rfl rfl
  | @found caller request shared ready kept =>
      exact agrees.gives_kept (agrees.pending_after idle) rfl rfl rfl (mem_of_lookup kept)
        (fun _ inserts => by cases inserts)
  | @missed caller request ready absent =>
      refine agrees.quiet (agrees.pending_after ?_) rfl rfl rfl rfl
      rintro _ ⟨⟩
      obtain ⟨asked, walked⟩ := agrees.pending caller request (by rw [ready]; rfl)
      exact ⟨requests_subset_concat trace _ asked, walked⟩
  | @inserted caller request shared cache ready inserted =>
      cases kept : system.cache.lookup? request.key with
      | some other =>
          rw [RuleCache.insertIfAbsent_of_kept kept] at inserted
          cases inserted
          refine agrees.gives_kept (agrees.pending_after idle) rfl rfl rfl (mem_of_lookup kept) ?_
          rintro _ ⟨⟩
          rfl
      | none =>
          rw [RuleCache.insertIfAbsent_of_absent kept] at inserted
          cases inserted
          obtain ⟨asked, _⟩ := agrees.pending caller request (by rw [ready]; rfl)
          exact agrees.inserts_new (agrees.pending_after idle) rfl asked kept rfl rfl rfl
  | @cleared caller _ => exact agrees.clear (agrees.pending_after idle) rfl rfl rfl
  | @counted caller _ => exact agrees.quiet (agrees.pending_after idle) rfl rfl rfl rfl

theorem Run.agrees (run : Run trace system) : Agrees trace system := by
  induction run with
  | start => exact agrees_start
  | step _ step inner => exact inner.step step

/-! ## What callers see -/

/-- A step that answers a request is one of a caller with this request under way. -/
theorem Step.underWay {event : CacheEvent Caller} {next : CacheSystem Caller}
    (step : Step system event next) {request : TableRequest} {shared : SharedTable}
    (answers : event.answered? = some (request, shared)) :
    ∃ caller, (system.phase caller).request? = some request := by
  cases step with
  | @found caller _ _ ready _ =>
      cases answers
      exact ⟨caller, by rw [ready]; rfl⟩
  | @inserted caller _ _ _ ready _ =>
      cases answers
      exact ⟨caller, by rw [ready]; rfl⟩
  | _ => cases answers

/-- The table that a request is answered with is the one that its schema derives. -/
theorem Run.answers_derived (run : Run trace system) (noCollision : NoCollision trace)
    {event : CacheEvent Caller} (mem : event ∈ trace) {request : TableRequest}
    {shared : SharedTable} (answers : event.answered? = some (request, shared)) :
    request.Walked ∧ shared.table = request.rules := by
  obtain ⟨before, later, rfl⟩ := List.append_of_mem mem
  obtain ⟨earlier, next, runBefore, step⟩ := run.split
  obtain ⟨caller, underWay⟩ := step.underWay answers
  obtain ⟨askedBefore, walked⟩ := runBefore.agrees.pending caller request underWay
  obtain ⟨other, askedOther, sameKey, derived⟩ := run.agrees.derived _ (mem_given mem answers)
  have asked : request ∈ requests (before ++ event :: later) := by
    rw [requests, List.filterMap_append]
    exact List.mem_append_left _ askedBefore
  refine ⟨walked, ?_⟩
  rw [derived]
  exact rules_eq_of_key_eq noCollision askedOther asked sameKey

theorem Run.entries_derived (run : Run trace system) (noCollision : NoCollision trace)
    {key : RuleKey} {shared : SharedTable} (kept : (key, shared) ∈ system.cache.entries) :
    (∃ request ∈ requests trace, request.key = key) ∧
      ∀ request ∈ requests trace, request.key = key → shared.table = request.rules := by
  have agrees := run.agrees
  have wasGiven := given_sinceClear_subset ((agrees.kept _).mp kept)
  obtain ⟨other, askedOther, isKey, derived⟩ := agrees.derived _ wasGiven
  refine ⟨⟨other, askedOther, isKey⟩, ?_⟩
  intro request asked sameKey
  rw [derived]
  exact rules_eq_of_key_eq noCollision askedOther asked (isKey.trans sameKey.symm)

/-- Between two clears one key has one table. -/
theorem Run.answers_shared {before between later : List (CacheEvent Caller)}
    {first second : CacheEvent Caller}
    (run : Run (before ++ first :: between ++ second :: later) system)
    (noClear : ∀ event ∈ between, event.clears = false) {request request' : TableRequest}
    {shared shared' : SharedTable} (answers : first.answered? = some (request, shared))
    (answers' : second.answered? = some (request', shared'))
    (sameKey : request.key = request'.key) : shared = shared' := by
  obtain ⟨earlier, next, runBefore, step⟩ := run.split
  have agrees := runBefore.agrees.step step
  -- the cache keeps both tables after the second answer, and only one for a key
  have recent : first ∈ sinceClear ((before ++ first :: between) ++ [second]) := by
    have shape : (before ++ first :: between) ++ [second] =
        before ++ first :: (between ++ [second]) := by simp
    rw [shape]
    exact mem_sinceClear (clears_of_answered answers) (List.forall_mem_append.mpr
      ⟨noClear, List.forall_mem_singleton.mpr (clears_of_answered answers')⟩)
  have recent' : second ∈ sinceClear ((before ++ first :: between) ++ [second]) :=
    mem_sinceClear (clears_of_answered answers') (by simp)
  have kept := lookup_of_mem agrees.distinct ((agrees.kept _).mpr (mem_given recent answers))
  have kept' := lookup_of_mem agrees.distinct ((agrees.kept _).mpr (mem_given recent' answers'))
  rw [sameKey, kept'] at kept
  exact (Option.some.inj kept).symm

/-- A table is counted once for every key that was inserted since the last clear. -/
theorem Run.size_eq (run : Run trace system) :
    system.cache.size = (insertedKeys (sinceClear trace)).dedup.length := by
  have agrees := run.agrees
  have sameKeys :
      (system.cache.entries.map (·.1)).Perm (insertedKeys (sinceClear trace)).dedup := by
    apply (List.perm_ext_iff_of_nodup agrees.distinct (List.nodup_dedup _)).mpr
    intro key
    rw [agrees.inserted, List.mem_dedup]
  rw [← sameKeys.length_eq, List.length_map]
  rfl

/-- Tables with one handle are one table, given out for one key. -/
theorem Run.same_handle (run : Run trace system) {event event' : CacheEvent Caller}
    (mem : event ∈ trace) (mem' : event' ∈ trace) {request request' : TableRequest}
    {shared shared' : SharedTable} (answers : event.answered? = some (request, shared))
    (answers' : event'.answered? = some (request', shared'))
    (sameHandle : shared.handle = shared'.handle) :
    request.key = request'.key ∧ shared = shared' := by
  have same := run.agrees.unique _ (mem_given mem answers) _ (mem_given mem' answers') sameHandle
  injection same with keys tables
  exact ⟨keys, tables⟩

end CacheSystem

open CacheSystem CacheEvent in
/-- Whatever the steps of the callers and their order: every table that a call gets is the
one that its schema derives, and a document is canonicalized as it is without a cache; so
are the tables that are kept; calls of one key between two clears get the very same table;
counting gives the number of keys inserted since the last clear; and a document that cannot
be walked leaves the cache as it is.  A call that waits can always take its next step. -/
theorem rule_cache_invisible {Caller : Type} [DecidableEq Caller]
    {trace : List (CacheEvent Caller)} {system : CacheSystem Caller} (run : Run trace system)
    (noCollision : NoCollision trace) :
    (∀ event ∈ trace, ∀ request shared, event.answered? = some (request, shared) →
      shared.table = request.rules ∧
        ∀ document, request.document = some document →
          Canonical.canonicalize document request.origin.schema request.wrapperFields =
            .ok (Canonical.normalize shared.table document)) ∧
    (∀ key shared, (key, shared) ∈ system.cache.entries →
      (∃ request ∈ requests trace, request.key = key) ∧
        ∀ request ∈ requests trace, request.key = key → shared.table = request.rules) ∧
    (∀ before first between second later request shared request' shared',
      trace = before ++ first :: between ++ second :: later →
      (∀ event ∈ between, event.clears = false) →
      first.answered? = some (request, shared) → second.answered? = some (request', shared') →
      request.key = request'.key → shared = shared') ∧
    (∀ before caller number later, trace = before ++ .counted caller number :: later →
      number = (insertedKeys (sinceClear before)).dedup.length) ∧
    (∀ (earlier next : CacheSystem Caller) caller request cycle,
      earlier.Step (.failed caller request cycle) next →
      next.cache = earlier.cache ∧ ∃ document, request.document = some document ∧
        Canonical.canonicalize document request.origin.schema request.wrapperFields =
          .error cycle) ∧
    (∀ caller request, system.phase caller = .lookingUp request →
      (∃ shared next, system.Step (.found caller request shared) next) ∨
        ∃ next, system.Step (.missed caller request) next ∧
          next.phase caller = .inserting request) ∧
    ∀ caller request, system.phase caller = .inserting request →
      ∃ shared next, system.Step (.inserted caller request shared) next := by
  refine ⟨?_, ?_, ?_, ?_, ?_, ?_, ?_⟩
  · intro event mem request shared answers
    obtain ⟨walked, derived⟩ := run.answers_derived noCollision mem answers
    refine ⟨derived, ?_⟩
    intro document isDocument
    rw [Canonical.canonicalize_of_checked (walked document isDocument), derived]
    rfl
  · intro key shared kept
    exact run.entries_derived noCollision kept
  · intro before first between second later request shared request' shared' whole noClear
      answers answers' sameKey
    subst whole
    exact run.answers_shared noClear answers answers' sameKey
  · intro before caller number later whole
    subst whole
    obtain ⟨earlier, next, runBefore, step⟩ := run.split
    cases step
    exact runBefore.size_eq
  · intro earlier next caller request cycle step
    cases step with
    | @failed _ _ document _ _ _ isDocument fails =>
        obtain ⟨failed, sameCache⟩ := Canonical.canonicalizeCached_eq_error fails
        refine ⟨sameCache, document, isDocument, ?_⟩
        rw [Canonical.canonicalize_eq, failed]
        rfl
  · intro caller request ready
    cases kept : system.cache.lookup? request.key with
    | some shared => exact .inl ⟨shared, _, .found ready kept⟩
    | none => exact .inr ⟨_, .missed ready kept, after_phase_self ..⟩
  · intro caller request ready
    exact ⟨_, _, .inserted ready rfl⟩

/-- The schema in which `on` holds a name or a list of names, as it is written. -/
def triggerSource : Json :=
  .object [("properties", .object [("on", .object [("oneOf", .array [
    .object [("type", .string "string")],
    .object [("type", .string "array"), ("items", .object [("type", .string "string")])]])])])]

def triggerOrigin : LoadedSchema where
  source := triggerSource
  schema := { Canonical.triggerSchema with id := Schema.identity triggerSource }
  loaded := rfl

/-- One caller wants the rules of the schema. -/
def rulesRequest : TableRequest :=
  ⟨triggerOrigin, ["name"], none⟩

/-- Another caller canonicalizes a document with them. -/
def documentRequest : TableRequest :=
  ⟨triggerOrigin, ["name"], some (.object [("on", .string "push")])⟩

/-- Both callers miss, and the cache is cleared before the second one inserts. -/
def race : List (CacheEvent Bool) :=
  [.called true rulesRequest, .called false documentRequest,
    .missed true rulesRequest, .missed false documentRequest,
    .inserted true rulesRequest ⟨0, rulesRequest.rules⟩, .cleared true,
    .inserted false documentRequest ⟨1, documentRequest.rules⟩, .counted true 1]

open CacheSystem in
theorem exists_run_race : ∃ system, Run race system := by
  have acyclic : triggerOrigin.schema.Acyclic := Schema.acyclic_of_lone_root rfl rfl rfl rfl
  let system₁ := start.after true (.lookingUp rulesRequest) RuleCache.empty
  let system₂ := system₁.after false (.lookingUp documentRequest) RuleCache.empty
  let system₃ := system₂.after true (.inserting rulesRequest) RuleCache.empty
  let system₄ := system₃.after false (.inserting documentRequest) RuleCache.empty
  let system₅ := system₄.after true .idle
    (RuleCache.empty.insertIfAbsent rulesRequest.key rulesRequest.rules).2
  let system₆ := system₅.after true .idle system₅.cache.clear
  let system₇ := system₆.after false .idle
    (system₆.cache.insertIfAbsent documentRequest.key documentRequest.rules).2
  have called : start.Step (.called true rulesRequest) system₁ :=
    .called rfl (fun _ isDocument => by cases isDocument)
  have alsoCalled : system₁.Step (.called false documentRequest) system₂ :=
    .called rfl (fun document _ => acyclic.checkDocument_ok document)
  have missed : system₂.Step (.missed true rulesRequest) system₃ := .missed rfl rfl
  have alsoMissed : system₃.Step (.missed false documentRequest) system₄ := .missed rfl rfl
  have inserted : system₄.Step (.inserted true rulesRequest ⟨0, rulesRequest.rules⟩) system₅ :=
    .inserted rfl rfl
  have cleared : system₅.Step (.cleared true) system₆ := .cleared rfl
  have insertedLate : system₆.Step
      (.inserted false documentRequest ⟨1, documentRequest.rules⟩) system₇ :=
    .inserted rfl rfl
  have counted : system₇.Step (.counted true 1) _ := .counted rfl
  exact ⟨_, (((((((Run.start.step called).step alsoCalled).step missed).step alsoMissed).step
    inserted).step cleared).step insertedLate).step counted⟩

open CacheSystem CacheEvent in
theorem rule_cache_invisible_in_race :
    ∃ system, Run race system ∧ NoCollision race ∧
      Canonical.canonicalize (.object [("on", .string "push")]) triggerOrigin.schema ["name"] =
        .ok (Canonical.normalize documentRequest.rules (.object [("on", .string "push")])) ∧
      1 = (insertedKeys (sinceClear (race.take 7))).dedup.length := by
  obtain ⟨system, run⟩ := exists_run_race
  have noCollision : NoCollision race := by
    intro request asked other askedOther _
    have one : ∀ request ∈ requests race, request.origin = triggerOrigin := by
      simp [requests, race, request?, rulesRequest, documentRequest]
    rw [one request asked, one other askedOther]
  obtain ⟨answers, _, _, counts, _⟩ := rule_cache_invisible run noCollision
  refine ⟨system, run, noCollision, ?_, ?_⟩
  · obtain ⟨_, canonical⟩ := answers
      (.inserted false documentRequest ⟨1, documentRequest.rules⟩) (by simp [race]) _ _ rfl
    exact canonical _ rfl
  · exact counts (race.take 7) true 1 [] rfl

end Pipewright
