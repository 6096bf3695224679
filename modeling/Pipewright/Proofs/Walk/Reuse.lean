import Pipewright.Proofs.Builder.Failure
import Pipewright.Proofs.Walk.Sharing

/-!
# Walking together again

Slots that are all awake are like fresh ones.  A walk that succeeds leaves them awake, so
that the same slots can walk again and again.  A walk that fails is left in the middle,
and the mutes above that place are never lifted: the only slots that are awake behind it
are those whose observers have failed there themselves.
-/

namespace Pipewright

open Walk

variable {State : Type}

/-- The observer of a slot with the state that it is in. -/
def Slot.member (slot : Slot State) : Observer State × State :=
  (slot.observer, slot.state)

namespace Fanout

variable {earlier : State → State → Prop} {fanout : Fanout State} {hidden lifted : Nat}
  {document : Json} {schema : Schema} {cycle : CyclicReference}

/-- Nothing is asked of what an observer does. -/
theorem advances_trivial (observer : Observer State) : observer.Advances fun _ _ => True :=
  ⟨fun _ => trivial, fun _ _ => trivial, fun _ _ => trivial, fun _ _ => trivial,
    fun _ _ => trivial, fun _ _ _ => trivial⟩

/-- Every slot hears of everything. -/
def Awake (fanout : Fanout State) : Prop :=
  ∀ slot ∈ fanout, slot.mute = none

theorem awake_fresh (members : List (Observer State × State)) : (fresh members).Awake := by
  intro slot mem
  obtain ⟨member, _, rfl⟩ := List.mem_map.mp mem
  rfl

/-- Slots that are all awake are fresh slots for their observers in their states. -/
theorem Awake.fresh_eq (awake : fanout.Awake) : fresh (fanout.map Slot.member) = fanout := by
  have same : ∀ slot ∈ fanout, Fanout.slot slot.observer slot.state = slot := by
    intro slot among
    obtain ⟨observer, state, mute⟩ := slot
    obtain rfl : mute = none := awake _ among
    rfl
  rw [fresh, List.map_map]
  exact (List.map_congr_left same).trans (List.map_id fanout)

/-! ## Walks that succeed -/

/-- Without observers there is nothing to be muted. -/
theorem walk_nil (document : Json) (schema : Schema) :
    (walk document schema (observer State) []).1 = [] := by
  have advances : (observer State).Advances fun before after => before = [] → after = [] := by
    refine ⟨fun _ => id, fun first second => second ∘ first, ?_, ?_, ?_, ?_⟩
    · rintro _ place rfl
      rfl
    · rintro _ place rfl
      rfl
    · rintro _ place rfl
      rfl
    · rintro _ place position rfl
      rfl
  rw [walk_eq_run]
  cases documentOutline schema document with
  | error cycle => rfl
  | ok outline => exact outline.run_advances advances [] rfl

/-- A walk that succeeds brings every observer to where it comes alone, and leaves it awake. -/
theorem Awake.walk_eq (awake : fanout.Awake)
    (succeeded : (walk document schema (observer State) fanout).2 = .ok ()) :
    (walk document schema (observer State) fanout).1 = fanout.map fun slot =>
      Fanout.slot slot.observer (walk document schema slot.observer slot.state).1 := by
  by_cases empty : fanout = []
  · rw [empty, walk_nil]
    rfl
  · have members : fanout.map Slot.member ≠ [] := fun none => empty (List.map_eq_nil_iff.mp none)
    have shares := walkTogether_shares document schema members fun member _ =>
      advances_trivial member.1
    rw [walkTogether, awake.fresh_eq] at shares
    generalize walk document schema (observer State) fanout = joint at shares succeeded
    cases shares with
    | fails => cases succeeded
    | succeeds =>
        apply List.map_congr_left
        intro slot among
        rw [Slot.settle_of_awake (awake slot among)]
        rfl

/-! ## Walks that fail -/

/-- A walk with all slots that failed: where a slot is awake, its observer fails alike on
its own. -/
def Halts (course : Course State) (cycle : CyclicReference) (fanout : Fanout State)
    (joint : Outcome (Fanout State)) : Prop :=
  ∃ reached : Slot State → Slot State, joint = (fanout.map reached, .error cycle) ∧
    ∀ slot ∈ fanout, (reached slot).mute = none →
      slot.mute = none ∧
        course slot.observer slot.state = ((reached slot).state, .error cycle)

section Descending

variable {alone : Observer State → State → State × Flow} {muted : Mute}
  {answer : Slot State → Slot State × Flow} {course next : Course State}
  {joint : Outcome (Fanout State)}

/-- Where a walk halts below a place, it halts at the place. -/
theorem Halts.descend (takes : ∀ slot ∈ fanout, slot.Takes alone muted (answer slot))
    (halts : Halts course cycle (fanout.map fun slot => (answer slot).1) joint) :
    Halts (fun observer state => Walk.descend (alone observer state) (course observer)) cycle
      fanout joint := by
  obtain ⟨reached, same, alike⟩ := halts
  rw [List.map_map] at same
  refine ⟨_, same, ?_⟩
  intro slot among awake
  obtain ⟨goesOn, fails⟩ := alike _ (List.mem_map_of_mem among) awake
  obtain ⟨was, _, answers⟩ := (takes slot among).of_awake goesOn
  rw [(takes slot among).observer_eq] at fails
  refine ⟨was, ?_⟩
  change Walk.descend (alone slot.observer slot.state) (course slot.observer) = _
  rw [answers]
  exact fails

/-- What would come behind a walk that halts does not count. -/
theorem Halts.andThen (halts : Halts course cycle fanout joint) :
    Halts (fun observer state => Walk.andThen (course observer state) (next observer)) cycle
      fanout joint := by
  obtain ⟨reached, same, alike⟩ := halts
  refine ⟨reached, same, ?_⟩
  intro slot among awake
  obtain ⟨was, fails⟩ := alike slot among awake
  refine ⟨was, ?_⟩
  change Walk.andThen (course slot.observer slot.state) (next slot.observer) = _
  rw [Walk.andThen, fails]

/-- A walk may halt behind another one that succeeds. -/
theorem Halts.behind
    (succeeds : ∀ slot ∈ fanout, slot.mute = none →
      (course slot.observer slot.state).2 = .ok ())
    (halts : Halts next cycle (fanout.map (Slot.settle course)) joint) :
    Halts (fun observer state => Walk.andThen (course observer state) (next observer)) cycle
      fanout joint := by
  obtain ⟨reached, same, alike⟩ := halts
  rw [List.map_map] at same
  refine ⟨_, same, ?_⟩
  intro slot among awake
  obtain ⟨settled, fails⟩ := alike _ (List.mem_map_of_mem among) awake
  have was := Slot.settle_mute_eq_none.mp settled
  refine ⟨was, ?_⟩
  change Walk.andThen (course slot.observer slot.state) (next slot.observer) =
    ((reached (slot.settle course)).state, .error cycle)
  rw [Slot.settle_of_awake was] at fails ⊢
  rw [Walk.andThen, succeeds slot among was]
  exact fails

end Descending

end Fanout

namespace Walk

open Fanout

variable {earlier : State → State → Prop} {cycle : CyclicReference}

theorem andThen_error {outcome : Outcome State} {next : State → Outcome State}
    (failed : (andThen outcome next).2 = .error cycle) :
    (outcome.2 = .error cycle ∧ andThen outcome next = outcome) ∨
      outcome.2 = .ok () ∧ andThen outcome next = next outcome.1 := by
  obtain ⟨state, result⟩ := outcome
  cases result with
  | error cycle' => exact .inl ⟨failed, rfl⟩
  | ok _ => exact .inr ⟨rfl, rfl⟩

theorem descend_error {answered : State × Flow} {below : State → Outcome State}
    (failed : (descend answered below).2 = .error cycle) :
    answered.2 = .continue ∧ descend answered below = below answered.1 := by
  obtain ⟨state, flow⟩ := answered
  cases flow with
  | «continue» => exact ⟨rfl, rfl⟩
  | stop => cases failed

mutual

theorem Outline.run_halts {outline : Outline} {fanout : Fanout State}
    (nested : outline.Nested)
    (ready : Ready earlier outline.place.depth outline.place.depth fanout)
    (failed : (outline.run (Fanout.observer State) fanout).2 = .error cycle) :
    Halts (fun observer => outline.run observer) cycle fanout
      (outline.run (Fanout.observer State) fanout) := by
  match outline with
  | .node place below =>
      have readyAt : Ready earlier place.depth place.depth fanout := ready
      have takes : ∀ slot ∈ fanout, _ := fun slot among =>
        Slot.enter_takes (readyAt.fits slot among)
      rw [Outline.run] at failed ⊢
      rcases andThen_error failed with ⟨inside, same⟩ | ⟨_, left⟩
      · obtain ⟨continues, descends⟩ := descend_error inside
        rw [descends, enter_fst] at inside
        rw [enter_snd] at continues
        have onward := readyAt.taken takes (Nat.le_succ _) (Nat.le_refl _)
          ⟨Nat.le_refl _, Nat.le_refl _⟩ continues
        rw [same, descends, enter_fst]
        have halts : Halts (fun observer state => andThen (descend (observer.enter state place)
            (below.run observer)) fun state => (observer.leave state place, .ok ())) cycle
            fanout _ := ((Branches.run_halts nested onward inside).descend takes).andThen
        exact halts
      · -- behind the branches nothing fails any more
        rw [left] at failed
        cases failed

theorem Branches.run_halts {branches : Branches} {path : List Step} {fanout : Fanout State}
    (nested : branches.NestedIn path)
    (ready : Ready earlier (path.length + 1) path.length fanout)
    (failed : (branches.run (Fanout.observer State) fanout).2 = .error cycle) :
    Halts (fun observer => branches.run observer) cycle fanout
      (branches.run (Fanout.observer State) fanout) := by
  match branches, nested with
  | .finished, _ => cases failed
  | .failed cycle', _ =>
      cases failed
      refine ⟨id, by rw [List.map_id]; rfl, ?_⟩
      intro slot _ awake
      exact ⟨awake, rfl⟩
  | .branch announcement first rest, ⟨⟨step, below⟩, nestedFirst, nestedRest⟩ =>
      have deep : first.place.depth = path.length + 1 := by
        rw [Context.depth, below, List.length_append, List.length_singleton]
      have takes : ∀ slot ∈ fanout, _ := fun slot among =>
        Slot.announced_takes announcement (ready.fits slot among) (Nat.le_of_eq deep.symm)
      rw [Branches.run] at failed ⊢
      rcases andThen_error failed with ⟨inside, same⟩ | ⟨succeeded, behind⟩
      · obtain ⟨continues, descends⟩ := descend_error inside
        have announced := announce_of_continue announcement continues
        rw [descends, announced] at inside
        rw [ready.announce_snd] at continues
        have below : path.length ≤ first.place.depth := by omega
        have onward := ready.taken takes (Nat.le_of_eq deep.symm) below
          ⟨Nat.le_refl _, Nat.le_refl _⟩ continues
        rw [same, descends, announced]
        exact ((Outline.run_halts nestedFirst onward inside).descend takes).andThen
      · -- the first branch has succeeded with all slots, and so it has settled each of them
        have walked := Shares.announce announcement deep ready
          fun _ ready => Outline.run_shares nestedFirst ready
        rw [behind] at failed ⊢
        generalize descend (announcement.announce (Fanout.observer State) first.place fanout)
          (first.run (Fanout.observer State)) = joint at *
        cases walked with
        | fails => cases succeeded
        | succeeds results =>
            exact (Branches.run_halts nestedRest (ready.settle _) failed).behind results

end

end Walk

namespace Fanout

variable {fanout : Fanout State} {document : Json} {schema : Schema} {cycle : CyclicReference}

theorem Awake.ready (awake : fanout.Awake) (nonempty : fanout ≠ []) (depth : Nat) :
    Ready (fun _ _ => True) depth depth fanout := by
  obtain ⟨slot, among⟩ := List.exists_mem_of_ne_nil fanout nonempty
  refine ⟨fun slot _ => advances_trivial slot.observer, ?_, slot, among, awake slot among⟩
  intro slot among mute muted
  rw [awake slot among] at muted
  cases muted

/-- A walk that fails from slots that are all awake. -/
theorem Awake.walk_halts (awake : fanout.Awake)
    (failed : (walk document schema (observer State) fanout).2 = .error cycle) :
    Halts (walk document schema) cycle fanout
      (walk document schema (observer State) fanout) := by
  by_cases empty : fanout = []
  · refine ⟨id, Prod.ext ?_ failed, ?_⟩
    · rw [empty, walk_nil]
      rfl
    · rw [empty]
      exact fun _ mem => nomatch mem
  · cases found : documentOutline schema document with
    | error cycle' =>
        rw [walk_eq_run, found] at failed
        cases failed
        refine ⟨id, ?_, ?_⟩
        · rw [walk_eq_run, found, List.map_id]
        · intro slot _ unmuted
          refine ⟨unmuted, ?_⟩
          rw [walk_eq_run, found]
          rfl
    | ok outline =>
        have runs : (walk document schema : Course State) =
            fun observer state => outline.run observer state := by
          funext observer state
          rw [walk_eq_run, found]
        rw [walk_eq_run, found] at failed ⊢
        rw [runs]
        exact outline.run_halts (documentOutline_nested found)
          (awake.ready empty outline.place.depth) failed

/-- The slots that walks which succeed lead to. -/
inductive Walked (start : Fanout State) : Fanout State → Prop where
  | start : Walked start start
  | onward {reached : Fanout State} {document : Json} {schema : Schema} :
      Walked start reached →
      (walk document schema (observer State) reached).2 = .ok () →
      Walked start (walk document schema (observer State) reached).1

theorem Walked.awake {start reached : Fanout State} (walked : Walked start reached)
    (awake : start.Awake) : reached.Awake := by
  induction walked with
  | start => exact awake
  | onward _ succeeded reached =>
      rw [reached.walk_eq succeeded]
      intro slot mem
      obtain ⟨before, _, rfl⟩ := List.mem_map.mp mem
      rfl

theorem Walked.observers_eq {start reached : Fanout State} (walked : Walked start reached)
    (awake : start.Awake) : reached.map (·.observer) = start.map (·.observer) := by
  induction walked with
  | start => rfl
  | onward earlier succeeded same =>
      rw [(earlier.awake awake).walk_eq succeeded, List.map_map]
      exact same

end Fanout

/-- As long as their walks succeed, slots walk again as fresh ones of their observers would.
A walk that fails ends this: where it leaves a slot awake, the observer of the slot fails
alike at the same place on its own. -/
theorem reusable_until_failure {members : List (Observer State × State)}
    {reached : Fanout State} (walked : Fanout.Walked (Fanout.fresh members) reached)
    (document : Json) (schema : Schema) :
    reached.Awake ∧ reached.map (·.observer) = members.map (·.1) ∧
      walk document schema (Fanout.observer State) reached =
        walkTogether document schema (reached.map Slot.member) ∧
      ∀ cycle, (walk document schema (Fanout.observer State) reached).2 = .error cycle →
        List.Forall₂
          (fun before after => after.mute = none →
            walk document schema before.observer before.state = (after.state, .error cycle))
          reached (walk document schema (Fanout.observer State) reached).1 := by
  have awake := walked.awake (Fanout.awake_fresh members)
  refine ⟨awake, ?_, ?_, ?_⟩
  · rw [walked.observers_eq (Fanout.awake_fresh members), Fanout.fresh, List.map_map]
    rfl
  · rw [walkTogether, awake.fresh_eq]
  · intro cycle failed
    obtain ⟨left, same, alike⟩ := awake.walk_halts failed
    rw [same, List.forall₂_map_right_iff, List.forall₂_same]
    intro slot among unmuted
    exact (alike slot among unmuted).2

/-- One of two observers stops at the triggers.  They walk a workflow, and fail on triggers
that the other one goes on below. -/
theorem reusable_until_failure_on_loopedTriggers :
    let members := [(Observer.stopsAt [[.key "on"]] [], ()), (Observer.silent Unit, ())]
    let reached := (walk workflow workflowSchema (Fanout.observer Unit) (Fanout.fresh members)).1
    let failed := walk loopedTriggers loopedTriggersSchema (Fanout.observer Unit) reached
    Fanout.Walked (Fanout.fresh members) reached ∧
      reached.Awake ∧ reached.map (·.observer) = members.map (·.1) ∧
      failed = walkTogether loopedTriggers loopedTriggersSchema (reached.map Slot.member) ∧
      failed.2 = .error ⟨["#/definitions/loop", "#/definitions/loop"]⟩ ∧
      List.Forall₂
        (fun before after => after.mute = none →
          walk loopedTriggers loopedTriggersSchema before.observer before.state =
            (after.state, .error ⟨["#/definitions/loop", "#/definitions/loop"]⟩))
        reached failed.1 := by
  intro members reached failed
  have succeeded : (walk workflow workflowSchema (Fanout.observer Unit)
      (Fanout.fresh members)).2 = .ok () := by
    rw [walk_eq_run, documentOutline_workflow]
    decide +kernel
  have walked : Fanout.Walked (Fanout.fresh members) reached := .onward .start succeeded
  have failure : failed.2 = .error ⟨["#/definitions/loop", "#/definitions/loop"]⟩ := by
    unfold failed reached
    rw [walk_eq_run, walk_eq_run, documentOutline_workflow, documentOutline_loopedTriggers]
    decide +kernel
  obtain ⟨awake, same, fresh, halts⟩ :=
    reusable_until_failure walked loopedTriggers loopedTriggersSchema
  exact ⟨walked, awake, same, fresh, failure, halts _ failure⟩

/-- Behind that failure the observer that has stopped does not hear of the jobs of the next
workflow, which it would hear of in fresh slots. -/
theorem muted_behind_failure :
    let members := [(Observer.stopsAt [[.key "on"]] [], ()), (Observer.silent Unit, ())]
    let failed := walk loopedTriggers loopedTriggersSchema (Fanout.observer (Unit × List Heard))
      (Fanout.fresh (members.map recording))
    let again := walk workflow workflowSchema (Fanout.observer _) failed.1
    let afresh := walkTogether workflow workflowSchema (failed.1.map Slot.member)
    failed.2 = .error ⟨["#/definitions/loop", "#/definitions/loop"]⟩ ∧
      failed.1.map (·.mute) = [some ⟨2, 1⟩, none] ∧
      again.2 = .ok () ∧ afresh.2 = .ok () ∧
      again.1.map (·.state.2.length) = [14, 20] ∧
      afresh.1.map (·.state.2.length) = [17, 20] := by
  intro members failed again afresh
  unfold afresh again failed walkTogether
  simp only [walk_eq_run, documentOutline_workflow, documentOutline_loopedTriggers]
  decide +kernel

end Pipewright
