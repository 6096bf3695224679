import Mathlib.Data.List.Forall2
import Pipewright.Proofs.Walk.Pruning
import Pipewright.Walk.Fanout

/-!
# Walking together

Several observers that walk as one hear what each of them hears alone.  A slot is awake
where its observer would be walking on its own, and muted where its observer has stopped
or passed over a property.  A mute never reaches beyond the place that it was set at:
the depth that it hides from and the depth that it is lifted at are bounded by the depth
of the walk.
-/

namespace Pipewright

open Walk

variable {State : Type}

/-- What an observer does on its own from a state. -/
abbrev Course (State : Type) := Observer State → State → Outcome State

namespace Slot

/-- A mute of the slot hides from `hidden` or further up, and is lifted at `lifted` or
further up. -/
def Fits (hidden lifted : Nat) (slot : Slot State) : Prop :=
  ∀ mute, slot.mute = some mute → mute.hiddenFrom ≤ hidden ∧ mute.liftedAt ≤ lifted

/-- Lift a mute that ends at a depth. -/
def lift (depth : Nat) (slot : Slot State) : Slot State :=
  match slot.mute with
  | some mute => if mute.liftedAt = depth then ⟨slot.observer, slot.state, none⟩ else slot
  | none => slot

/-- The slot after its observer has walked, if it is awake. -/
def settle (course : Course State) (slot : Slot State) : Slot State :=
  match slot.mute with
  | none => ⟨slot.observer, (course slot.observer slot.state).1, none⟩
  | some _ => slot

/-- How a slot takes an event: where it is awake it answers as its observer does, and it
is muted if that is to stop. -/
inductive Takes (alone : Observer State → State → State × Flow) (muted : Mute)
    (slot : Slot State) : Slot State × Flow → Prop where
  | goesOn {state : State} : slot.mute = none →
      alone slot.observer slot.state = (state, .continue) →
      Takes alone muted slot (⟨slot.observer, state, none⟩, .continue)
  | stops {state : State} : slot.mute = none →
      alone slot.observer slot.state = (state, .stop) →
      Takes alone muted slot (⟨slot.observer, state, some muted⟩, .stop)
  | sleeps {mute : Mute} : slot.mute = some mute → Takes alone muted slot (slot, .stop)

variable {slot : Slot State} {depth : Nat} {place : Context}
  {alone : Observer State → State → State × Flow} {muted : Mute}
  {taken : Slot State × Flow} {course next : Course State}

theorem not_hears_of_muted {hidden lifted : Nat} {mute : Mute}
    (fits : slot.Fits hidden lifted) (muted : slot.mute = some mute) (deep : hidden ≤ depth) :
    slot.hears depth = false := by
  have bound := (fits mute muted).1
  rw [hears, muted]
  simp only [decide_eq_false_iff_not, Nat.not_lt]
  omega

/-! ## Events -/

/-- A slot takes entering a place. -/
theorem enter_takes (fits : slot.Fits place.depth place.depth) :
    slot.Takes (fun observer state => observer.enter state place)
      ⟨place.depth + 1, place.depth⟩ (slot.enter place) := by
  cases muted : slot.mute with
  | some mute =>
      have deaf := not_hears_of_muted fits muted (Nat.le_refl place.depth)
      have asleep : slot.enter place = (slot, .stop) := by
        rw [enter, deaf]
        rfl
      rw [asleep]
      exact .sleeps muted
  | none =>
      obtain ⟨observer, state, mute⟩ := slot
      cases muted
      cases answered : observer.enter state place with
      | mk entered flow =>
          have whole : enter place ⟨observer, state, none⟩ =
              match observer.enter state place with
              | (entered, .continue) => (⟨observer, entered, none⟩, .continue)
              | (entered, .stop) =>
                  (⟨observer, entered, some ⟨place.depth + 1, place.depth⟩⟩, .stop) := by
            rw [answered]
            cases flow <;> simp only [enter, hears, ↓reduceIte, answered]
          rw [answered] at whole
          rw [whole]
          cases flow with
          | «continue» => exact .goesOn rfl answered
          | stop => exact .stops rfl answered

/-- How a slot takes the announcement of a place. -/
def announced (announcement : Announcement) (place : Context) (slot : Slot State) :
    Slot State × Flow :=
  match announcement with
  | .property => ((slot.property place).1, (slot.property place).2.1)
  | .item position => (slot.item place position, if slot.mute = none then .continue else .stop)

theorem announced_takes (announcement : Announcement) {hidden lifted : Nat}
    (fits : slot.Fits hidden lifted) (deep : hidden ≤ place.depth) :
    slot.Takes (fun observer state => announcement.announce observer place state)
      ⟨place.depth, place.depth⟩ (slot.announced announcement place) := by
  cases muted : slot.mute with
  | some mute =>
      have deaf := not_hears_of_muted fits muted deep
      have asleep : slot.announced announcement place = (slot, .stop) := by
        cases announcement with
        | property =>
            rw [announced, property, deaf]
            rfl
        | item position =>
            rw [announced, item, deaf, muted]
            rfl
      rw [asleep]
      exact .sleeps muted
  | none =>
      obtain ⟨observer, state, mute⟩ := slot
      cases muted
      cases announcement with
      | item position => exact .goesOn rfl rfl
      | property =>
          cases answered : observer.property state place with
          | mk visited flow =>
              have whole : announced .property place ⟨observer, state, none⟩ =
                  match observer.property state place with
                  | (visited, .continue) => (⟨observer, visited, none⟩, .continue)
                  | (visited, .stop) =>
                      (⟨observer, visited, some ⟨place.depth, place.depth⟩⟩, .stop) := by
                rw [answered]
                cases flow <;> simp only [announced, property, hears, ↓reduceIte, answered]
              rw [answered] at whole
              rw [whole]
              cases flow with
              | «continue» => exact .goesOn rfl answered
              | stop => exact .stops rfl answered

/-! ## Mutes -/

theorem Takes.observer_eq (takes : slot.Takes alone muted taken) :
    taken.1.observer = slot.observer := by
  cases takes <;> rfl

theorem Takes.fits (takes : slot.Takes alone muted taken) {hidden lifted : Nat}
    (fits : slot.Fits hidden lifted) {hidden' lifted' : Nat} (hides : hidden ≤ hidden')
    (lifts : lifted ≤ lifted') (new : muted.hiddenFrom ≤ hidden' ∧ muted.liftedAt ≤ lifted') :
    taken.1.Fits hidden' lifted' := by
  intro mute found
  cases takes with
  | goesOn => cases found
  | stops =>
      cases found
      exact new
  | sleeps =>
      obtain ⟨hidesFrom, liftsAt⟩ := fits mute found
      exact ⟨Nat.le_trans hidesFrom hides, Nat.le_trans liftsAt lifts⟩

/-- A slot that goes on was awake, and is. -/
theorem Takes.awake_of_continue (takes : slot.Takes alone muted taken)
    (goesOn : taken.2 = .continue) : taken.1.mute = none := by
  cases takes with
  | goesOn => rfl
  | stops => cases goesOn
  | sleeps => cases goesOn

/-- A slot that is awake goes on. -/
theorem Takes.of_awake (takes : slot.Takes alone muted taken) (awake : taken.1.mute = none) :
    slot.mute = none ∧ taken.2 = .continue ∧
      alone slot.observer slot.state = (taken.1.state, .continue) := by
  cases takes with
  | goesOn was answers => exact ⟨was, rfl, answers⟩
  | stops => cases awake
  | sleeps muted =>
      rw [muted] at awake
      cases awake

/-- A slot that has stopped stays as it is. -/
theorem Takes.settle_of_stop (takes : slot.Takes alone muted taken) (stops : taken.2 = .stop) :
    taken.1.settle course = taken.1 := by
  cases takes with
  | goesOn => cases stops
  | stops => rfl
  | sleeps muted => rw [settle, muted]

/-- A slot that goes on below ends where its observer does on its own. -/
theorem Takes.settle_state (takes : slot.Takes alone muted taken) :
    (taken.1.settle course).state =
      (slot.settle fun observer state =>
        descend (alone observer state) (course observer)).state := by
  cases takes with
  | goesOn awake answers => simp only [settle, awake, descend, answers]
  | stops awake answers => simp only [settle, awake, descend, answers]
  | sleeps muted => simp only [settle, muted]

theorem Takes.result_of_awake (takes : slot.Takes alone muted taken)
    (awake : slot.mute = none)
    (succeeds : taken.1.mute = none → (course taken.1.observer taken.1.state).2 = .ok ()) :
    (descend (alone slot.observer slot.state) (course slot.observer)).2 = .ok () := by
  cases takes with
  | goesOn _ answers =>
      rw [answers]
      exact succeeds rfl
  | stops _ answers => rw [answers, descend]
  | sleeps muted =>
      rw [muted] at awake
      cases awake

/-- Behind a place that is announced a slot is as awake as before it. -/
theorem Takes.lift_settle (takes : slot.Takes alone muted taken) {hidden lifted : Nat}
    (fits : slot.Fits hidden lifted) (above : lifted < muted.liftedAt) :
    (taken.1.settle course).lift muted.liftedAt =
      slot.settle fun observer state => descend (alone observer state) (course observer) := by
  cases takes with
  | goesOn awake answers => simp only [settle, lift, awake, descend, answers]
  | stops awake answers => simp only [settle, lift, awake, descend, answers, ↓reduceIte]
  | sleeps asleep =>
      have early := (fits _ asleep).2
      simp only [settle, lift, asleep]
      rw [if_neg (by omega)]

/-- Where everybody passes over a property, its mutes are lifted at once. -/
theorem property_settle {hidden lifted : Nat} (fits : slot.Fits hidden lifted)
    (deep : hidden ≤ place.depth) (stops : (slot.property place).2.1 = .stop) :
    (if (slot.property place).2.2 then { (slot.property place).1 with mute := none }
      else (slot.property place).1) =
      slot.settle fun observer state =>
        descend (observer.property state place) (course observer) := by
  cases muted : slot.mute with
  | some mute =>
      have deaf := not_hears_of_muted fits muted deep
      simp only [property, deaf, settle, muted, Bool.false_eq_true, ↓reduceIte]
  | none =>
      obtain ⟨observer, state, mute⟩ := slot
      cases muted
      cases answered : observer.property state place with
      | mk visited flow =>
          cases flow with
          | «continue» =>
              simp only [property, hears, ↓reduceIte, answered] at stops
              cases stops
          | stop => simp only [property, hears, ↓reduceIte, answered, settle, descend]

/-- Leaving a place lifts the mutes that were set on entering it. -/
theorem leave_settle (fits : slot.Fits place.depth place.depth)
    (succeeds : slot.mute = none →
      (descend (slot.observer.enter slot.state place) (course slot.observer)).2 = .ok ()) :
    ((slot.enter place).1.settle course).leave place =
      (slot.settle fun observer state =>
        andThen (descend (observer.enter state place) (course observer))
          fun state => (observer.leave state place, .ok ())).lift place.depth := by
  have takes := enter_takes fits
  generalize slot.enter place = taken at takes
  cases takes with
  | goesOn awake answers =>
      have result := succeeds awake
      simp only [descend, answers] at result
      simp only [settle, lift, awake, descend, answers, leave, hears, ↓reduceIte, andThen,
        result]
  | stops awake answers =>
      simp only [settle, lift, awake, descend, answers, leave, hears, Nat.lt_add_one,
        decide_true, ↓reduceIte, andThen]
  | sleeps asleep =>
      have deaf := not_hears_of_muted fits asleep (Nat.le_refl place.depth)
      simp only [settle, lift, asleep, leave, deaf, Bool.false_eq_true, ↓reduceIte]

theorem settle_observer : (slot.settle course).observer = slot.observer := by
  unfold settle
  split <;> rfl

theorem settle_fits {hidden lifted : Nat} (fits : slot.Fits hidden lifted) :
    (slot.settle course).Fits hidden lifted := by
  intro mute found
  cases muted : slot.mute with
  | none =>
      rw [settle, muted] at found
      cases found
  | some mute' =>
      rw [settle, muted] at found
      exact fits mute found

theorem settle_mute_eq_none : (slot.settle course).mute = none ↔ slot.mute = none := by
  cases muted : slot.mute with
  | none => simp [settle, muted]
  | some mute => simp [settle, muted]

theorem settle_of_awake (awake : slot.mute = none) :
    slot.settle course = ⟨slot.observer, (course slot.observer slot.state).1, none⟩ := by
  rw [settle, awake]

theorem settle_of_idle {result : Resolved Unit} :
    slot.settle (fun _ state => (state, result)) = slot := by
  obtain ⟨observer, state, mute⟩ := slot
  cases mute <;> rfl

/-- One walk behind another that succeeded. -/
theorem settle_settle
    (succeeds : slot.mute = none → (course slot.observer slot.state).2 = .ok ()) :
    (slot.settle course).settle next =
      slot.settle fun observer state => andThen (course observer state) (next observer) := by
  cases muted : slot.mute with
  | none =>
      have result := succeeds muted
      simp only [settle, muted, andThen, result]
  | some mute => simp only [settle, muted]

/-- Where a slot ends is not before where it ended a shorter walk. -/
theorem settle_advances {earlier : State → State → Prop}
    (advances : slot.observer.Advances earlier)
    (advancing : ∀ state, earlier state (next slot.observer state).1) :
    earlier (slot.settle course).state
      (slot.settle fun observer state =>
        andThen (course observer state) (next observer)).state := by
  cases muted : slot.mute with
  | none =>
      rw [settle_of_awake muted, settle_of_awake muted]
      exact andThen_advances advances _ advancing
  | some mute =>
      simp only [settle, muted]
      exact advances.refl slot.state

end Slot

namespace Fanout

variable {earlier : State → State → Prop} {fanout : Fanout State} {hidden lifted : Nat}

theorem anyContinue_of_mem {flows : List Flow} (mem : .continue ∈ flows) :
    anyContinue flows = .continue := by
  have contained := List.contains_iff_mem.mpr mem
  rw [anyContinue, contained]
  rfl

theorem anyContinue_eq_stop {flows : List Flow} (stops : anyContinue flows = .stop) :
    ∀ flow ∈ flows, flow = .stop := by
  intro flow mem
  cases flow with
  | stop => rfl
  | «continue» =>
      rw [anyContinue_of_mem mem] at stops
      cases stops

theorem mem_of_anyContinue {flows : List Flow} (continues : anyContinue flows = .continue) :
    .continue ∈ flows := by
  rw [anyContinue] at continues
  split at continues
  · next contained => exact List.contains_iff_mem.mp contained
  · cases continues

/-- The slots can walk on: every observer advances, mutes fit, and some slot is awake. -/
structure Ready (earlier : State → State → Prop) (hidden lifted : Nat)
    (fanout : Fanout State) : Prop where
  advances : ∀ slot ∈ fanout, slot.observer.Advances earlier
  fits : ∀ slot ∈ fanout, slot.Fits hidden lifted
  awake : ∃ slot ∈ fanout, slot.mute = none

/-- A walk with all slots beside the walks of those that are awake.  If it succeeds, so
would each of them, and the slots end as `after` says.  If it fails, one of them would
have failed alike, and no slot has gone further than on its own. -/
inductive Shares (earlier : State → State → Prop) (course : Course State)
    (after : Slot State → Slot State) (fanout : Fanout State) :
    Outcome (Fanout State) → Prop where
  | succeeds : (∀ slot ∈ fanout, slot.mute = none →
        (course slot.observer slot.state).2 = .ok ()) →
      Shares earlier course after fanout (fanout.map after, .ok ())
  | fails {reached : Slot State → Slot State} {cycle : CyclicReference} :
      (∀ slot ∈ fanout, earlier (reached slot).state (slot.settle course).state) →
      (∃ slot ∈ fanout, slot.mute = none ∧
        (course slot.observer slot.state).2 = .error cycle) →
      Shares earlier course after fanout (fanout.map reached, .error cycle)

theorem Ready.settle (ready : Ready earlier hidden lifted fanout) (course : Course State) :
    Ready earlier hidden lifted (fanout.map (Slot.settle course)) := by
  refine ⟨?_, ?_, ?_⟩
  · intro settled mem
    obtain ⟨slot, among, rfl⟩ := List.mem_map.mp mem
    rw [Slot.settle_observer]
    exact ready.advances slot among
  · intro settled mem
    obtain ⟨slot, among, rfl⟩ := List.mem_map.mp mem
    exact Slot.settle_fits (ready.fits slot among)
  · obtain ⟨slot, among, awake⟩ := ready.awake
    exact ⟨_, List.mem_map_of_mem among, Slot.settle_mute_eq_none.mpr awake⟩

section Descending

variable {alone : Observer State → State → State × Flow} {muted : Mute}
  {answer : Slot State → Slot State × Flow} {course : Course State}
  {after' : Slot State → Slot State}

/-- Below a place that is looked into, some slot is awake. -/
theorem Ready.taken (ready : Ready earlier hidden lifted fanout)
    (takes : ∀ slot ∈ fanout, slot.Takes alone muted (answer slot))
    {hidden' lifted' : Nat} (hides : hidden ≤ hidden') (lifts : lifted ≤ lifted')
    (new : muted.hiddenFrom ≤ hidden' ∧ muted.liftedAt ≤ lifted')
    (continues : anyContinue (fanout.map fun slot => (answer slot).2) = .continue) :
    Ready earlier hidden' lifted' (fanout.map fun slot => (answer slot).1) := by
  refine ⟨?_, ?_, ?_⟩
  · intro taken mem
    obtain ⟨slot, among, rfl⟩ := List.mem_map.mp mem
    rw [(takes slot among).observer_eq]
    exact ready.advances slot among
  · intro taken mem
    obtain ⟨slot, among, rfl⟩ := List.mem_map.mp mem
    exact (takes slot among).fits (ready.fits slot among) hides lifts new
  · obtain ⟨slot, among, goesOn⟩ := List.mem_map.mp (mem_of_anyContinue continues)
    exact ⟨_, List.mem_map_of_mem among, (takes slot among).awake_of_continue goesOn⟩

/-- Going on below where one of the slots wants to. -/
theorem Shares.descend (after : Slot State → Slot State) {answered : Fanout State × Flow}
    {joint : Fanout State → Outcome (Fanout State)}
    (takes : ∀ slot ∈ fanout, slot.Takes alone muted (answer slot))
    (flow : answered.2 = anyContinue (fanout.map fun slot => (answer slot).2))
    (same : ∀ slot ∈ fanout, after (answer slot).1 = after' slot)
    (goesOn : answered.2 = .continue → answered.1 = fanout.map fun slot => (answer slot).1)
    (stops : answered.2 = .stop → answered.1 = fanout.map after')
    (below : answered.2 = .continue →
      Shares earlier course after (fanout.map fun slot => (answer slot).1)
        (joint (fanout.map fun slot => (answer slot).1))) :
    Shares earlier
      (fun observer state => Walk.descend (alone observer state) (course observer)) after'
      fanout (Walk.descend answered joint) := by
  obtain ⟨slots, answer⟩ := answered
  cases answer with
  | stop =>
      obtain rfl : slots = _ := stops rfl
      apply Shares.succeeds
      intro slot among awake
      apply (takes slot among).result_of_awake awake
      intro still
      have continues := ((takes slot among).of_awake still).2.1
      have stopped := anyContinue_eq_stop flow.symm _ (List.mem_map_of_mem among)
      rw [continues] at stopped
      cases stopped
  | «continue» =>
      obtain rfl : slots = _ := goesOn rfl
      have shares := below rfl
      have onward : Walk.descend (fanout.map fun slot => (answer slot).1, .continue) joint =
          joint (fanout.map fun slot => (answer slot).1) := rfl
      rw [onward]
      generalize joint _ = outcome at shares
      cases shares with
      | succeeds results =>
          have settled : fanout.map (after ∘ fun slot => (answer slot).1) =
              fanout.map after' := List.map_congr_left same
          rw [List.map_map, settled]
          apply Shares.succeeds
          intro slot among awake
          apply (takes slot among).result_of_awake awake
          exact results _ (List.mem_map_of_mem among)
      | fails reaches failure =>
          rw [List.map_map]
          apply Shares.fails
          · intro slot among
            rw [← (takes slot among).settle_state]
            exact reaches _ (List.mem_map_of_mem among)
          · obtain ⟨taken, mem, awake, fails⟩ := failure
            obtain ⟨slot, among, rfl⟩ := List.mem_map.mp mem
            obtain ⟨was, _, answers⟩ := (takes slot among).of_awake awake
            refine ⟨slot, among, was, ?_⟩
            rw [answers]
            rw [(takes slot among).observer_eq] at fails
            exact fails

end Descending

variable {course next : Course State} {after after' : Slot State → Slot State}
  {joint : Outcome (Fanout State)}

/-- Leaving a place with all slots. -/
theorem Shares.leave {place : Context}
    (advances : ∀ slot ∈ fanout, slot.observer.Advances earlier)
    (shares : Shares earlier course after fanout joint)
    (leaves : ∀ slot ∈ fanout,
      (slot.mute = none → (course slot.observer slot.state).2 = .ok ()) →
        (after slot).leave place = after' slot) :
    Shares earlier
      (fun observer state =>
        andThen (course observer state) fun state => (observer.leave state place, .ok ()))
      after' fanout
      (andThen joint fun fanout => ((observer State).leave fanout place, .ok ())) := by
  cases shares with
  | succeeds results =>
      have left : ((fanout.map after).map (Slot.leave place)) = fanout.map after' := by
        rw [List.map_map]
        apply List.map_congr_left
        intro slot among
        exact leaves slot among (results slot among)
      change Shares _ _ _ _ ((fanout.map after).map (Slot.leave place), .ok ())
      rw [left]
      apply Shares.succeeds
      intro slot among awake
      rw [andThen_ok]
      exact results slot among awake
  | fails reaches failure =>
      apply Shares.fails
      · intro slot among
        have observes := advances slot among
        exact observes.trans (reaches slot among)
          (Slot.settle_advances observes fun state => observes.leave state place)
      · obtain ⟨slot, among, awake, fails⟩ := failure
        refine ⟨slot, among, awake, ?_⟩
        rw [andThen_ok]
        exact fails

/-- Going on where all slots have walked. -/
theorem Shares.andThen {jointly : Fanout State → Outcome (Fanout State)}
    (advances : ∀ slot ∈ fanout, slot.observer.Advances earlier)
    (advancing : ∀ slot ∈ fanout, ∀ state, earlier state (next slot.observer state).1)
    (first : Shares earlier course (Slot.settle course) fanout joint)
    (second : Shares earlier next (Slot.settle next) (fanout.map (Slot.settle course))
      (jointly (fanout.map (Slot.settle course)))) :
    Shares earlier (fun observer state => Walk.andThen (course observer state) (next observer))
      (Slot.settle fun observer state => Walk.andThen (course observer state) (next observer))
      fanout (Walk.andThen joint jointly) := by
  cases first with
  | fails reaches failure =>
      apply Shares.fails
      · intro slot among
        have observes := advances slot among
        exact observes.trans (reaches slot among)
          (Slot.settle_advances observes (advancing slot among))
      · obtain ⟨slot, among, awake, fails⟩ := failure
        refine ⟨slot, among, awake, ?_⟩
        rw [Walk.andThen, fails]
  | succeeds results =>
      have both : ∀ slot ∈ fanout, (slot.settle course).settle next = slot.settle
          fun observer state => Walk.andThen (course observer state) (next observer) :=
        fun slot among => Slot.settle_settle (results slot among)
      have onward : ∀ slot ∈ fanout, slot.mute = none →
          Walk.andThen (course slot.observer slot.state) (next slot.observer) =
            next (slot.settle course).observer (slot.settle course).state := by
        intro slot among awake
        rw [Slot.settle_of_awake awake, Walk.andThen, results slot among awake]
      have further : Walk.andThen (fanout.map (Slot.settle course), .ok ()) jointly =
          jointly (fanout.map (Slot.settle course)) := rfl
      rw [further]
      generalize jointly _ = outcome at second
      cases second with
      | succeeds results' =>
          have settled : fanout.map (Slot.settle next ∘ Slot.settle course) = fanout.map
              (Slot.settle fun observer state =>
                Walk.andThen (course observer state) (next observer)) :=
            List.map_congr_left both
          rw [List.map_map, settled]
          apply Shares.succeeds
          intro slot among awake
          rw [onward slot among awake]
          exact results' _ (List.mem_map_of_mem among) (Slot.settle_mute_eq_none.mpr awake)
      | fails reaches failure =>
          rw [List.map_map]
          apply Shares.fails
          · intro slot among
            have reached := reaches _ (List.mem_map_of_mem among)
            rw [both slot among] at reached
            exact reached
          · obtain ⟨settled, mem, awake, fails⟩ := failure
            obtain ⟨slot, among, rfl⟩ := List.mem_map.mp mem
            have was := Slot.settle_mute_eq_none.mp awake
            refine ⟨slot, among, was, ?_⟩
            rw [onward slot among was]
            exact fails

theorem Shares.finished (fanout : Fanout State) :
    Shares earlier (fun _ state => (state, .ok ())) (Slot.settle fun _ state => (state, .ok ()))
      fanout (fanout, .ok ()) := by
  have idle : fanout.map (Slot.settle fun _ state => (state, .ok ())) = fanout :=
    List.map_id'' (fun _ => Slot.settle_of_idle) fanout
  have shares : Shares earlier (fun _ state => (state, .ok ()))
      (Slot.settle fun _ state => (state, .ok ())) fanout
      (fanout.map (Slot.settle fun _ state => (state, .ok ())), .ok ()) := by
    apply Shares.succeeds
    intro slot _ _
    rfl
  rw [idle] at shares
  exact shares

theorem Shares.failed (ready : Ready earlier hidden lifted fanout) (cycle : CyclicReference) :
    Shares earlier (fun _ state => (state, .error cycle)) after fanout
      (fanout, .error cycle) := by
  have shares : Shares earlier (fun _ state => (state, .error cycle)) after fanout
      (fanout.map id, .error cycle) := by
    apply Shares.fails
    · intro slot among
      rw [Slot.settle_of_idle]
      exact (ready.advances slot among).refl slot.state
    · obtain ⟨slot, among, awake⟩ := ready.awake
      exact ⟨slot, among, awake, rfl⟩
  rw [List.map_id] at shares
  exact shares

/-! ## Walks with all slots -/

theorem enter_fst (fanout : Fanout State) (place : Context) :
    ((observer State).enter fanout place).1 = fanout.map fun slot => (slot.enter place).1 := by
  change (fanout.map (Slot.enter place)).map (·.1) = _
  rw [List.map_map]
  rfl

theorem enter_snd (fanout : Fanout State) (place : Context) :
    ((observer State).enter fanout place).2 =
      anyContinue (fanout.map fun slot => (slot.enter place).2) := by
  change anyContinue ((fanout.map (Slot.enter place)).map (·.2)) = _
  rw [List.map_map]
  rfl

/-- An announcement goes on if one of the slots wants to. -/
theorem Ready.announce_snd (ready : Ready earlier hidden lifted fanout)
    (announcement : Announcement) (place : Context) :
    (announcement.announce (observer State) place fanout).2 =
      anyContinue (fanout.map fun slot => (slot.announced announcement place).2) := by
  cases announcement with
  | property =>
      change (property fanout place).2 = _
      rw [property, List.map_map]
      change _ = anyContinue (fanout.map ((·.2.1) ∘ Slot.property place))
      split <;> next same => exact same.symm
  | item position =>
      obtain ⟨slot, among, awake⟩ := ready.awake
      have goesOn : (slot.announced (.item position) place).2 = .continue := if_pos awake
      exact (anyContinue_of_mem (List.mem_map.mpr ⟨slot, among, goesOn⟩)).symm

theorem announce_of_continue (announcement : Announcement) {place : Context}
    (continues : (announcement.announce (observer State) place fanout).2 = .continue) :
    (announcement.announce (observer State) place fanout).1 =
      fanout.map fun slot => (slot.announced announcement place).1 := by
  cases announcement with
  | property =>
      change (property fanout place).1 = _
      change (property fanout place).2 = _ at continues
      rw [property] at continues ⊢
      split at continues
      · rw [List.map_map]
        rfl
      · cases continues
  | item position => rfl

/-- Entering a place with all slots, and going on below. -/
theorem Shares.enter {place : Context} {jointly : Fanout State → Outcome (Fanout State)}
    (ready : Ready earlier place.depth place.depth fanout)
    (below : ∀ fanout, Ready earlier (place.depth + 1) place.depth fanout →
      Shares earlier course (Slot.settle course) fanout (jointly fanout)) :
    Shares earlier
      (fun observer state => Walk.descend (observer.enter state place) (course observer))
      (fun slot => (slot.enter place).1.settle course) fanout
      (Walk.descend ((observer State).enter fanout place) jointly) := by
  have takes : ∀ slot ∈ fanout, _ := fun slot among =>
    Slot.enter_takes (ready.fits slot among)
  have flow := enter_snd fanout place
  have entered := enter_fst fanout place
  apply Shares.descend (Slot.settle course) takes flow (fun _ _ => rfl) (fun _ => entered)
  · intro stopped
    rw [entered]
    apply List.map_congr_left
    intro slot among
    rw [flow] at stopped
    have stops := anyContinue_eq_stop stopped _ (List.mem_map_of_mem among)
    exact ((takes slot among).settle_of_stop stops).symm
  · intro continues
    rw [flow] at continues
    exact below _ (ready.taken takes (Nat.le_succ _) (Nat.le_refl _)
      ⟨Nat.le_refl _, Nat.le_refl _⟩ continues)

/-- Announcing a place to all slots, and walking it. -/
theorem Shares.announce (announcement : Announcement) {place : Context} {depth : Nat}
    {jointly : Fanout State → Outcome (Fanout State)} (deep : place.depth = depth + 1)
    (ready : Ready earlier (depth + 1) depth fanout)
    (walks : ∀ fanout, Ready earlier place.depth place.depth fanout →
      Shares earlier course (fun slot => (slot.settle course).lift place.depth) fanout
        (jointly fanout)) :
    Shares earlier
      (fun observer state =>
        Walk.descend (announcement.announce observer place state) (course observer))
      (Slot.settle fun observer state =>
        Walk.descend (announcement.announce observer place state) (course observer))
      fanout (Walk.descend (announcement.announce (observer State) place fanout) jointly) := by
  have takes : ∀ slot ∈ fanout, _ := fun slot among =>
    Slot.announced_takes announcement (ready.fits slot among) (Nat.le_of_eq deep.symm)
  have flow := ready.announce_snd announcement place
  have same : ∀ slot ∈ fanout,
      ((slot.announced announcement place).1.settle course).lift place.depth =
        slot.settle fun observer state =>
          Walk.descend (announcement.announce observer place state) (course observer) := by
    intro slot among
    exact (takes slot among).lift_settle (ready.fits slot among)
      (by simp only [deep, Nat.lt_add_one])
  apply Shares.descend (fun slot => (slot.settle course).lift place.depth) takes flow same
  case goesOn => exact announce_of_continue announcement
  case stops =>
    intro stopped
    cases announcement with
    | item position => cases stopped
    | property =>
        have answers := stopped
        rw [flow] at answers
        change (property fanout place).1 = _
        change (property fanout place).2 = _ at stopped
        rw [property] at stopped ⊢
        split at stopped
        · cases stopped
        · rw [List.map_map]
          apply List.map_congr_left
          intro slot among
          have stops := anyContinue_eq_stop answers _ (List.mem_map_of_mem among)
          exact Slot.property_settle (ready.fits slot among) (Nat.le_of_eq deep.symm) stops
  case below =>
    intro continues
    rw [flow] at continues
    exact walks _ (ready.taken takes (Nat.le_of_eq deep.symm) (by omega)
      ⟨Nat.le_refl _, Nat.le_refl _⟩ continues)

end Fanout

namespace Walk

open Fanout

variable {earlier : State → State → Prop}

mutual

/-- Walking an outline with all slots. -/
theorem Outline.run_shares {outline : Outline} {fanout : Fanout State}
    (nested : outline.Nested)
    (ready : Ready earlier outline.place.depth outline.place.depth fanout) :
    Shares earlier (fun observer => outline.run observer)
      (fun slot =>
        (slot.settle fun observer => outline.run observer).lift outline.place.depth)
      fanout (outline.run (Fanout.observer State) fanout) := by
  match outline with
  | .node place below =>
      have inside : ∀ fanout, Ready earlier (place.depth + 1) place.depth fanout →
          Shares earlier (fun observer => below.run observer) (Slot.settle _) fanout
            (below.run (Fanout.observer State) fanout) :=
        fun _ ready => Branches.run_shares nested ready
      have readyAt : Ready earlier place.depth place.depth fanout := ready
      apply (Shares.enter readyAt inside).leave ready.advances
      intro slot among succeeds
      exact Slot.leave_settle (readyAt.fits slot among) succeeds

/-- Walking the places right below a path with all slots. -/
theorem Branches.run_shares {branches : Branches} {path : List Step} {fanout : Fanout State}
    (nested : branches.NestedIn path)
    (ready : Ready earlier (path.length + 1) path.length fanout) :
    Shares earlier (fun observer => branches.run observer)
      (Slot.settle fun observer => branches.run observer) fanout
      (branches.run (Fanout.observer State) fanout) := by
  match branches, nested with
  | .finished, _ => exact .finished fanout
  | .failed cycle, _ => exact .failed ready cycle
  | .branch announcement first rest, ⟨⟨step, below⟩, nestedFirst, nestedRest⟩ =>
      have deep : first.place.depth = path.length + 1 := by
        rw [Context.depth, below, List.length_append, List.length_singleton]
      have walked := Shares.announce announcement deep ready
        fun _ ready => Outline.run_shares nestedFirst ready
      exact walked.andThen ready.advances
        (fun slot among => rest.run_advances (ready.advances slot among))
        (Branches.run_shares nestedRest (ready.settle _))

end

end Walk

/-- Several observers as one that has heard of nothing yet. -/
def Fanout.fresh (members : List (Observer State × State)) : Fanout State :=
  members.map fun member => Fanout.slot member.1 member.2

/-- Walk a document with several observers at once. -/
def walkTogether (document : Json) (schema : Schema) (members : List (Observer State × State)) :
    Outcome (Fanout State) :=
  walk document schema (Fanout.observer State) (Fanout.fresh members)

/-- An observer that records, and has nothing on record yet. -/
def recording (member : Observer State × State) :
    Observer (State × List Heard) × (State × List Heard) :=
  (member.1.recorded, (member.2, []))

/-- What each of several observers hears and answers on a walk with all of them. -/
def heardTogether (document : Json) (schema : Schema)
    (members : List (Observer State × State)) : List (List Heard) :=
  (walkTogether document schema (members.map recording)).1.map (·.state.2)

section Documents

open Fanout

variable {members : List (Observer State × State)} {earlier : State → State → Prop}

theorem walkTogether_shares (document : Json) (schema : Schema) (nonempty : members ≠ [])
    (advances : ∀ member ∈ members, member.1.Advances earlier) :
    Shares earlier (walk document schema)
      (fun slot => (slot.settle (walk document schema)).lift 0)
      (Fanout.fresh members) (walkTogether document schema members) := by
  have ready : ∀ depth, Ready earlier depth depth (Fanout.fresh members) := by
    intro depth
    refine ⟨?_, ?_, ?_⟩
    · intro slot mem
      obtain ⟨member, among, rfl⟩ := List.mem_map.mp mem
      exact advances member among
    · intro slot mem mute muted
      obtain ⟨member, among, rfl⟩ := List.mem_map.mp mem
      cases muted
    · obtain ⟨member, among⟩ := List.exists_mem_of_ne_nil members nonempty
      exact ⟨_, List.mem_map_of_mem among, rfl⟩
  cases found : documentOutline schema document with
  | error cycle =>
      have fails : (walk document schema : Course State) =
          fun _ state => (state, .error cycle) := by
        funext observer state
        rw [walk_eq_run, found]
      rw [walkTogether, walk_eq_run, found, fails]
      exact .failed (ready 0) cycle
  | ok outline =>
      have runs : (walk document schema : Course State) =
          fun observer state => outline.run observer state := by
        funext observer state
        rw [walk_eq_run, found]
      rw [walkTogether, walk_eq_run, found, runs]
      have top : outline.place.depth = 0 := by
        obtain ⟨place, root, rfl⟩ := documentOutline_eq found
        exact congrArg List.length (context_path root)
      have shares := outline.run_shares (documentOutline_nested found)
        (ready outline.place.depth)
      rw [top] at shares
      exact shares

/-- A walk with several observers at once goes as each of the walks with one of them, or
fails as one of them does. -/
theorem walkTogether_cases (document : Json) (schema : Schema) (nonempty : members ≠ [])
    (advances : ∀ member ∈ members, member.1.Advances earlier) :
    ((∀ member ∈ members, (walk document schema member.1 member.2).2 = .ok ()) ∧
      (walkTogether document schema members).2 = .ok () ∧
      (walkTogether document schema members).1.map (·.state) =
        members.map fun member => (walk document schema member.1 member.2).1) ∨
    ∃ cycle, (walkTogether document schema members).2 = .error cycle ∧
      (∃ member ∈ members, (walk document schema member.1 member.2).2 = .error cycle) ∧
      List.Forall₂ earlier ((walkTogether document schema members).1.map (·.state))
        (members.map fun member => (walk document schema member.1 member.2).1) := by
  have shares := walkTogether_shares document schema nonempty advances
  generalize walkTogether document schema members = joint at shares
  cases shares with
  | succeeds results =>
      refine .inl ⟨?_, rfl, ?_⟩
      · intro member among
        exact results _ (List.mem_map_of_mem among) rfl
      · simp only [Fanout.fresh, List.map_map]
        rfl
  | fails reaches failure =>
      refine .inr ⟨_, rfl, ?_, ?_⟩
      · obtain ⟨slot, mem, _, fails⟩ := failure
        obtain ⟨member, among, rfl⟩ := List.mem_map.mp mem
        exact ⟨member, among, fails⟩
      · simp only [Fanout.fresh, List.map_map]
        rw [List.forall₂_map_left_iff, List.forall₂_map_right_iff, List.forall₂_same]
        intro member among
        exact reaches _ (List.mem_map_of_mem among)

/-- What the observers hear is what each of them hears alone, or a beginning of it. -/
theorem heardTogether_cases (document : Json) (schema : Schema) (nonempty : members ≠ []) :
    ((∀ member ∈ members, (walk document schema member.1 member.2).2 = .ok ()) ∧
      heardTogether document schema members =
        members.map fun member => heard document schema member.1 member.2) ∨
    (∃ member ∈ members, (walk document schema member.1 member.2).2 ≠ .ok ()) ∧
      List.Forall₂ (· <+: ·) (heardTogether document schema members)
        (members.map fun member => heard document schema member.1 member.2) := by
  have alone : ∀ member : Observer State × State,
      walk document schema (recording member).1 (recording member).2 =
        (((walk document schema member.1 member.2).1, heard document schema member.1 member.2),
          (walk document schema member.1 member.2).2) :=
    fun member => walk_recorded member.2
  have recordings : members.map recording ≠ [] :=
    fun empty => nonempty (List.map_eq_nil_iff.mp empty)
  have advances : ∀ recorded ∈ members.map recording,
      recorded.1.Advances fun first second => first.2 <+: second.2 := by
    intro recorded mem
    obtain ⟨member, _, rfl⟩ := List.mem_map.mp mem
    exact recorded_advances member.1
  rcases walkTogether_cases document schema recordings advances
    with ⟨results, _, states⟩ | ⟨cycle, _, ⟨recorded, mem, fails⟩, states⟩
  · refine .inl ⟨?_, ?_⟩
    · intro member among
      have result := results _ (List.mem_map_of_mem among)
      rw [alone] at result
      exact result
    · have records := congrArg (List.map Prod.snd) states
      simp only [List.map_map] at records
      rw [heardTogether, ← Function.comp_def, records]
      apply List.map_congr_left
      intro member _
      exact congrArg (·.1.2) (alone member)
  · obtain ⟨member, among, rfl⟩ := List.mem_map.mp mem
    refine .inr ⟨⟨member, among, ?_⟩, ?_⟩
    · rw [alone] at fails
      simp only at fails
      rw [fails]
      exact nofun
    · rw [List.map_map, List.forall₂_map_left_iff, List.forall₂_map_right_iff] at states
      rw [heardTogether, List.forall₂_map_left_iff, List.forall₂_map_right_iff]
      apply states.imp
      intro slot member reaches
      simp only [Function.comp_apply, alone] at reaches
      exact reaches

end Documents

/-- Observers that walk together hear what each of them hears alone.  If the walk
succeeds, each of them has heard all that it hears alone, and is in the state that it comes
to alone.  If the walk fails, each has heard a beginning of that, and one of them fails
alone with the same cycle.  If any of them fails alone, the walk fails. -/
theorem walkTogether_transparent {members : List (Observer State × State)}
    (nonempty : members ≠ []) (document : Json) (schema : Schema) :
    ((walkTogether document schema members).2 = .ok () →
      (walkTogether document schema members).1.map (·.state) =
          members.map (fun member => (walk document schema member.1 member.2).1) ∧
        heardTogether document schema members =
          members.map fun member => heard document schema member.1 member.2) ∧
      (∀ cycle, (walkTogether document schema members).2 = .error cycle →
        List.Forall₂ (· <+: ·) (heardTogether document schema members)
            (members.map fun member => heard document schema member.1 member.2) ∧
          ∃ member ∈ members, (walk document schema member.1 member.2).2 = .error cycle) ∧
      ((∃ member ∈ members, (walk document schema member.1 member.2).2 ≠ .ok ()) →
        (walkTogether document schema members).2 ≠ .ok ()) := by
  have advances : ∀ member ∈ members, member.1.Advances fun _ _ => True :=
    fun _ _ => ⟨fun _ => trivial, fun _ _ => trivial, fun _ _ => trivial, fun _ _ => trivial,
      fun _ _ => trivial, fun _ _ _ => trivial⟩
  rcases walkTogether_cases document schema nonempty advances
    with ⟨results, succeeded, states⟩ | ⟨cycle, failed, failure, _⟩
  · refine ⟨?_, ?_, ?_⟩
    · intro _
      refine ⟨states, ?_⟩
      rcases heardTogether_cases document schema nonempty
        with ⟨_, same⟩ | ⟨⟨member, among, fails⟩, _⟩
      · exact same
      · exact absurd (results member among) fails
    · intro cycle failed
      rw [succeeded] at failed
      cases failed
    · rintro ⟨member, among, fails⟩
      exact absurd (results member among) fails
  · refine ⟨?_, ?_, ?_⟩
    · intro succeeded
      rw [failed] at succeeded
      cases succeeded
    · intro cycle' failed'
      rw [failed] at failed'
      cases failed'
      refine ⟨?_, failure⟩
      rcases heardTogether_cases document schema nonempty
        with ⟨results, _⟩ | ⟨_, beginnings⟩
      · obtain ⟨member, among, fails⟩ := failure
        rw [results member among] at fails
        cases fails
      · exact beginnings
    · intro _
      rw [failed]
      exact nofun

/-- Three observers of a workflow: one stops at the jobs, one passes over them and the
triggers, and one hears of everything. -/
theorem walkTogether_transparent_on_workflow :
    let members := [(Observer.stopsAt [[.key "jobs"]] [], ()),
      (Observer.stopsAt [[.key "on"]] [[.key "jobs"], [.key "on"]], ()),
      (Observer.stopsAt [] [], ())]
    members ≠ [] ∧ (walkTogether workflow workflowSchema members).2 = .ok () ∧
      heardTogether workflow workflowSchema members =
        members.map (fun member => heard workflow workflowSchema member.1 member.2) ∧
      (heardTogether workflow workflowSchema members).map List.length = [14, 7, 17] := by
  intro members
  have nonempty : members ≠ [] := List.cons_ne_nil _ _
  obtain ⟨transparent, failing, _⟩ := walkTogether_transparent nonempty workflow workflowSchema
  have succeeded : (walkTogether workflow workflowSchema members).2 = .ok () := by
    cases result : (walkTogether workflow workflowSchema members).2 with
    | ok _ => rfl
    | error cycle =>
        obtain ⟨_, member, _, fails⟩ := failing cycle result
        have alone := (heard_eq_prune workflow_distinct documentOutline_workflow rfl
          member.1 member.2).1
        rw [alone] at fails
        cases fails
  obtain ⟨_, same⟩ := transparent succeeded
  refine ⟨nonempty, succeeded, same, ?_⟩
  rw [same]
  simp only [members, List.map_cons, List.map_nil, heard]
  rw [walk_eq_run, walk_eq_run, walk_eq_run, documentOutline_workflow]
  rfl

end Pipewright
