import Pipewright.Proofs.Json.Keys
import Pipewright.Proofs.Resolution.Unfolding
import Pipewright.Proofs.Schema.Layers

/-!
# Selected alternatives apply

Selection looks at a node as it is declared; resolution merges its branches first, and
drops the node in the end if its types refuse the value.  The types that are merged belong
to nodes that have been found for the value, so they never refuse it.  A selected
alternative is therefore never dropped.
-/

namespace Pipewright

namespace Node

variable {value : Json}

theorem acceptsType_iff (node : Node) (value : Json) :
    node.acceptsType value = true ↔
      node.never = false ∧
        (node.types = [] ∨ node.types.any (·.admits value) = true) := by
  simp [acceptsType]

theorem acceptsType_of_untyped {node : Node} (untyped : node.types = [])
    (possible : node.never = false) (value : Json) : node.acceptsType value = true :=
  (acceptsType_iff node value).mpr ⟨possible, .inl untyped⟩

theorem acceptsType_base (node : Node) (value : Json) :
    node.base.acceptsType value = node.acceptsType value := by
  simp [acceptsType, base, overlay, any]

theorem acceptsType_overlay {lower upper : Node} (below : lower.acceptsType value = true)
    (above : upper.acceptsType value = true) :
    (lower.overlay upper).acceptsType value = true := by
  rw [acceptsType_iff] at below above ⊢
  rw [never_overlay, types_overlay, below.1, above.1]
  refine ⟨rfl, ?_⟩
  by_cases untyped : upper.types = []
  · rw [if_pos untyped]
    exact below.2
  · rw [if_neg untyped]
    exact above.2

theorem admitsAlone_acceptsType {node : Node} (alone : node.admitsAlone value = true) :
    node.acceptsType value = true := by
  simp only [admitsAlone, Bool.and_eq_true] at alone
  exact alone.1.1

end Node

namespace Schema

variable {schema : Schema} {value : Json} {stack : List String}

theorem keepIfAccepted_of_acceptsType {node : Node} (accepts : node.acceptsType value = true) :
    keepIfAccepted value node = some node := by
  rw [keepIfAccepted, if_pos accepts]

theorem acceptsType_of_keepIfAccepted {node found : Node}
    (kept : keepIfAccepted value node = some found) : found.acceptsType value = true := by
  unfold keepIfAccepted at kept
  split at kept
  · next accepts =>
      cases kept
      exact accepts
  · cases kept

/-! ## What is found accepts the value -/

/-- Resolution follows references, merges branches and then chooses. -/
theorem effectiveFrom_eq (node : Node) :
    schema.effectiveFrom value stack node =
      match schema.follow stack node with
      | .error cycle => .error cycle
      | .ok none => .ok none
      | .ok (some (target, inner)) =>
          (schema.composed value inner target).bind (schema.chosen value inner) := by
  cases followed : schema.follow stack node with
  | error cycle =>
      rw [effectiveFrom]
      split <;> simp_all
  | ok found =>
      cases found with
      | none =>
          rw [effectiveFrom]
          split <;> simp_all
      | some found => exact effectiveFrom_of_followed followed

/-- What resolution finds was chosen from what the end of the references was composed to. -/
theorem exists_composed {node found : Node}
    (succeeds : schema.effectiveFrom value stack node = .ok (some found)) :
    ∃ target inner merged, schema.follow stack node = .ok (some (target, inner)) ∧
      schema.composed value inner target = .ok merged ∧
      schema.chosen value inner merged = .ok (some found) := by
  rw [effectiveFrom_eq] at succeeds
  split at succeeds
  · cases succeeds
  · cases succeeds
  · next target inner followed =>
      cases composes : schema.composed value inner target with
      | error cycle =>
          rw [composes] at succeeds
          cases succeeds
      | ok merged =>
          rw [composes] at succeeds
          exact ⟨target, inner, merged, followed, composes, succeeds⟩

/-- What is chosen accepts the value: the node itself if it is no union, else the node with
something laid over it. -/
theorem chosen_cases {node found : Node}
    (succeeds : schema.chosen value stack node = .ok (some found)) :
    found.acceptsType value = true ∧
      (node.isUnion = false ∧ found = node ∨ ∃ branch, found = node.base.overlay branch) := by
  unfold chosen at succeeds
  split at succeeds
  · split at succeeds
    · cases succeeds
    · cases succeeds
    · next branch _ =>
        have kept := Except.ok.inj succeeds
        exact ⟨acceptsType_of_keepIfAccepted kept, .inr ⟨branch, eq_of_keepIfAccepted kept⟩⟩
  · next single =>
      have kept := Except.ok.inj succeeds
      exact ⟨acceptsType_of_keepIfAccepted kept,
        .inl ⟨Bool.eq_false_iff.mpr single, eq_of_keepIfAccepted kept⟩⟩

theorem effectiveFrom_acceptsType {node found : Node}
    (succeeds : schema.effectiveFrom value stack node = .ok (some found)) :
    found.acceptsType value = true := by
  obtain ⟨target, inner, merged, _, _, chooses⟩ := exists_composed succeeds
  exact (chosen_cases chooses).1

theorem effectiveAlternative_acceptsType {alternatives : List Node} {found : Node}
    (succeeds : schema.effectiveAlternative value stack alternatives = .ok (some found)) :
    found.acceptsType value = true := by
  induction alternatives with
  | nil =>
      rw [effectiveAlternative] at succeeds
      cases succeeds
  | cons alternative rest inner =>
      rw [effectiveAlternative] at succeeds
      split at succeeds
      · cases succeeds
      · exact inner succeeds
      · exact effectiveFrom_acceptsType succeeds

/-- Merging branches never brings a type in that refuses the value. -/
theorem mergeBranches_acceptsType {branches : List Node} {merged result : Node}
    (accepts : merged.acceptsType value = true)
    (merges : schema.mergeBranches value stack merged branches = .ok result) :
    result.acceptsType value = true :=
  mergeBranches_keeps (fun node => node.acceptsType value = true)
    (fun below found => Node.acceptsType_overlay below (effectiveFrom_acceptsType found))
    accepts merges

/-- A node that admits no value still admits none with branches merged over it. -/
theorem mergeBranches_never {branches : List Node} {merged result : Node}
    (never : merged.never = true)
    (merges : schema.mergeBranches value stack merged branches = .ok result) :
    result.never = true :=
  mergeBranches_keeps (fun node => node.never = true)
    (fun below _ => by rw [Node.never_overlay, below, Bool.true_or]) never merges

/-- A node is composed by leaving it as it is or by merging branches over its base. -/
theorem composed_cases {node merged : Node}
    (composes : schema.composed value stack node = .ok merged) :
    merged = node ∨
      ∃ result, schema.mergeBranches value stack node.base node.allOf = .ok result ∧
        merged = result.withUnionOf node := by
  by_cases plain : node.allOf = []
  · rw [composed_of_plain plain] at composes
    exact .inl (Except.ok.inj composes).symm
  · rw [composed_of_branches plain] at composes
    cases merges : schema.mergeBranches value stack node.base node.allOf with
    | error cycle =>
        rw [merges] at composes
        cases composes
    | ok result =>
        rw [merges] at composes
        exact .inr ⟨result, rfl, (Except.ok.inj composes).symm⟩

theorem composed_isUnion {node merged : Node}
    (composes : schema.composed value stack node = .ok merged) :
    merged.isUnion = node.isUnion := by
  rcases composed_cases composes with rfl | ⟨result, _, rfl⟩
  · rfl
  · rfl

theorem composed_alternatives {node merged : Node}
    (composes : schema.composed value stack node = .ok merged) :
    merged.alternatives = node.alternatives := by
  rcases composed_cases composes with rfl | ⟨result, _, rfl⟩
  · rfl
  · rfl

theorem composed_acceptsType {node merged : Node} (accepts : node.acceptsType value = true)
    (composes : schema.composed value stack node = .ok merged) :
    merged.acceptsType value = true := by
  rcases composed_cases composes with rfl | ⟨result, merges, rfl⟩
  · exact accepts
  · rw [← Node.acceptsType_base] at accepts
    exact (mergeBranches_acceptsType accepts merges :)

theorem composed_never {node merged : Node} (never : node.never = true)
    (composes : schema.composed value stack node = .ok merged) : merged.never = true := by
  rcases composed_cases composes with rfl | ⟨result, merges, rfl⟩
  · exact never
  · have base : node.base.never = true := by
      rw [Node.base, Node.never_overlay, never, Bool.true_or]
    exact (mergeBranches_never base merges :)

/-- Where the composed node accepts the value, choosing an alternative finds a node if one is
entered. -/
theorem chosen_eq_none_iff {node : Node} (accepts : node.acceptsType value = true)
    (union : node.isUnion = true) :
    schema.chosen value stack node = .ok none ↔
      schema.effectiveAlternative value stack node.alternatives = .ok none := by
  rw [chosen_of_isUnion union]
  cases entered : schema.effectiveAlternative value stack node.alternatives with
  | error cycle => simp
  | ok found =>
      cases found with
      | none => simp
      | some branch =>
          rw [← Node.acceptsType_base] at accepts
          have overlaid := Node.acceptsType_overlay accepts
            (effectiveAlternative_acceptsType entered)
          simp [keepIfAccepted_of_acceptsType overlaid]

/-! ## A selected alternative applies -/

mutual

/-- The alternative that is selected is not dropped when it is entered. -/
theorem Selects.applies {stack after : List String} {position : Nat}
    {alternatives : List Node} {outcome : Resolved (Option (Nat × Node))}
    {found : Nat × Node} :
    schema.Selects value stack position alternatives outcome after →
      outcome = .ok (some found) →
      schema.effectiveAlternative value stack alternatives ≠ .ok none
  | .dangling follows selects, succeeded => by
      have applies := selects.applies succeeded
      rw [follows.take_eq] at applies
      rwa [effectiveAlternative_of_passed (firstAdmitted_single_of_dangling follows)]
  | .refused follows admits selects, succeeded => by
      have applies := selects.applies succeeded
      rw [admits.stack_eq, follows.take_eq] at applies
      rwa [effectiveAlternative_of_passed (firstAdmitted_single_of_refused follows admits)]
  | @Selects.admitted _ _ _ _ _ _ alternative target rest follows admits, _ => by
      have admitted : schema.firstAdmitted value stack [alternative] = .ok (some target) := by
        rw [firstAdmitted_of_followed follows.follow_eq, admits.outcome_eq]
      rw [effectiveAlternative_of_admitted admitted, effectiveFrom_of_followed follows.follow_eq]
      exact admits.applies rfl

/-- A node that admits the value is not dropped when it is composed. -/
theorem Admits.applies {stack after : List String} {node : Node} {outcome : Resolved Bool} :
    schema.Admits value stack node outcome after → outcome = .ok true →
      (schema.composed value stack node).bind (schema.chosen value stack) ≠ .ok none
  | .single alone single, _ => by
      have accepts := Node.admitsAlone_acceptsType alone
      cases composes : schema.composed value stack node with
      | error cycle => simp [Except.bind]
      | ok merged =>
          rw [← composed_isUnion composes] at single
          simp [Except.bind, chosen_of_single single,
            keepIfAccepted_of_acceptsType (composed_acceptsType accepts composes)]
  | @Admits.union _ _ _ _ _ selected alone union selects, succeeded => by
      have accepts := Node.admitsAlone_acceptsType alone
      have isOk : ∃ found, selected = .ok (some found) := by
        cases selected with
        | error cycle => cases succeeded
        | ok found =>
            have isSome : found.isSome = true := Except.ok.inj succeeded
            obtain ⟨chosen, rfl⟩ := Option.isSome_iff_exists.mp isSome
            exact ⟨chosen, rfl⟩
      obtain ⟨found, isOk⟩ := isOk
      have entered := selects.applies isOk
      cases composes : schema.composed value stack node with
      | error cycle => simp [Except.bind]
      | ok merged =>
          -- merging keeps the alternatives, so the one that was selected is entered
          rw [← composed_alternatives composes] at entered
          rw [← composed_isUnion composes] at union
          intro dropped
          exact entered
            ((chosen_eq_none_iff (composed_acceptsType accepts composes) union).mp dropped)

end

/-- No alternative applies where none is selected, and only there. -/
theorem effectiveAlternative_eq_none_iff (alternatives : List Node) :
    schema.effectiveAlternative value stack alternatives = .ok none ↔
      schema.firstAdmitted value stack alternatives = .ok none := by
  obtain ⟨outcome, after, selects⟩ := exists_selects schema value stack 0 alternatives
  rw [selects.outcome_eq]
  match outcome with
  | .error cycle =>
      rw [selects.effectiveAlternative_of_unselected]
      rfl
  | .ok none =>
      rw [selects.effectiveAlternative_of_unmatched]
      rfl
  | .ok (some found) =>
      constructor
      · intro dropped
        exact absurd dropped (selects.applies rfl)
      · intro unselected
        cases unselected

theorem effectiveAlternative_of_error {alternatives : List Node} {cycle : CyclicReference}
    (failed : schema.firstAdmitted value stack alternatives = .error cycle) :
    schema.effectiveAlternative value stack alternatives = .error cycle := by
  obtain ⟨outcome, after, selects⟩ := exists_selects schema value stack 0 alternatives
  rw [selects.outcome_eq] at failed
  cases outcome with
  | error other =>
      cases failed
      exact selects.effectiveAlternative_of_unselected
  | ok found => cases failed

/-- Entering an alternative succeeds only where selecting it does. -/
theorem exists_firstAdmitted {alternatives : List Node} {found : Option Node}
    (succeeds : schema.effectiveAlternative value stack alternatives = .ok found) :
    ∃ selected, schema.firstAdmitted value stack alternatives = .ok selected := by
  cases selected : schema.firstAdmitted value stack alternatives with
  | error cycle =>
      rw [effectiveAlternative_of_error selected] at succeeds
      cases succeeds
  | ok branch => exact ⟨branch, rfl⟩

/-- With fewer references on the stack, selecting succeeds in the same cases. -/
theorem firstAdmitted_of_fewer {stack' : List String} {alternatives : List Node}
    {selected : Option Node}
    (succeeds : schema.firstAdmitted value stack alternatives = .ok selected)
    (fewer : stack' ⊆ stack) :
    ∃ selected', schema.firstAdmitted value stack' alternatives = .ok selected' ∧
      (selected' = none ↔ selected = none) := by
  obtain ⟨outcome, after, selects⟩ := exists_selects schema value stack 0 alternatives
  cases outcome with
  | error cycle =>
      rw [selects.outcome_eq] at succeeds
      cases succeeds
  | ok found =>
      obtain ⟨found', selects', same⟩ := selects.unfold (.refl alternatives) fewer rfl
      rw [selects.outcome_eq] at succeeds
      refine ⟨_, selects'.outcome_eq, ?_⟩
      have positions : found' = none ↔ found = none := by
        rw [← Option.map_eq_none_iff (f := (·.1)), same, Option.map_eq_none_iff]
      rw [← Except.ok.inj succeeds, Option.map_eq_none_iff, Option.map_eq_none_iff]
      exact positions

/-! ## The first alternative that admits the value -/

/-- The alternative at the position is the first one that admits the value. -/
structure AdmitsFirst (schema : Schema) (value : Json) (alternatives : List Node)
    (position : Nat) (alternative : Node) : Prop where
  atPosition : alternatives[position]? = some alternative
  passed : schema.selectBranch value (alternatives.take position) = .ok none
  admitted : ∃ target, schema.selectBranch value [alternative] = .ok (some target)

/-- The second outcome counts where the first one finds nothing. -/
def otherwise (first second : Resolved (Option Node)) : Resolved (Option Node) :=
  match first with
  | .ok none => second
  | outcome => outcome

theorem otherwise_assoc (first second third : Resolved (Option Node)) :
    otherwise (otherwise first second) third = otherwise first (otherwise second third) := by
  match first with
  | .error _ => rfl
  | .ok none => rfl
  | .ok (some _) => rfl

/-- Alternatives behind others are tried where none of these is selected. -/
theorem firstAdmitted_append (front back : List Node) :
    schema.firstAdmitted value stack (front ++ back) =
      otherwise (schema.firstAdmitted value stack front)
        (schema.firstAdmitted value stack back) := by
  induction front with
  | nil =>
      have nothing : schema.firstAdmitted value stack [] = .ok none := by rw [firstAdmitted]
      rw [List.nil_append, nothing]
      rfl
  | cons alternative rest inner =>
      obtain ⟨outcome, after, follows⟩ := exists_follows schema stack alternative
      rw [List.cons_append]
      cases outcome with
      | error cycle =>
          rw [firstAdmitted_of_unfollowed follows.follow_error,
            firstAdmitted_of_unfollowed follows.follow_error]
          rfl
      | ok found =>
          cases found with
          | none =>
              rw [firstAdmitted_of_dangling follows.follow_dangling,
                firstAdmitted_of_dangling follows.follow_dangling, inner]
          | some target =>
              rw [firstAdmitted_of_followed follows.follow_eq,
                firstAdmitted_of_followed follows.follow_eq, inner]
              cases schema.admits value after target with
              | error cycle => rfl
              | ok verdict => cases verdict <;> rfl

theorem exists_admitted {alternatives : List Node} {target : Node}
    (selected : schema.firstAdmitted value stack alternatives = .ok (some target)) :
    ∃ front alternative back, alternatives = front ++ alternative :: back ∧
      schema.firstAdmitted value stack front = .ok none ∧
      schema.firstAdmitted value stack [alternative] = .ok (some target) := by
  induction alternatives with
  | nil =>
      rw [firstAdmitted] at selected
      cases selected
  | cons alternative rest inner =>
      rw [← List.singleton_append, firstAdmitted_append] at selected
      cases tried : schema.firstAdmitted value stack [alternative] with
      | error cycle =>
          rw [tried] at selected
          cases selected
      | ok first =>
          rw [tried] at selected
          cases first with
          | none =>
              obtain ⟨front, later, back, rfl, passed, admitted⟩ := inner selected
              refine ⟨alternative :: front, later, back, rfl, ?_, admitted⟩
              rw [← List.singleton_append, firstAdmitted_append, tried]
              exact passed
          | some first =>
              refine ⟨[], alternative, rest, rfl, by rw [firstAdmitted], ?_⟩
              rw [tried]
              exact selected

theorem resolve_of_admitted {alternative target : Node}
    (admitted : schema.selectBranch value [alternative] = .ok (some target)) :
    schema.resolve alternative = .ok (some target) := by
  obtain ⟨outcome, after, follows⟩ := exists_follows schema [] alternative
  have resolves : schema.resolve alternative = outcome := follows.outcome_eq
  rw [selectBranch] at admitted
  rw [resolves]
  match outcome with
  | .error cycle =>
      rw [firstAdmitted_of_unfollowed follows.follow_error] at admitted
      cases admitted
  | .ok none =>
      rw [firstAdmitted_of_dangling follows.follow_dangling, firstAdmitted] at admitted
      cases admitted
  | .ok (some arrived) =>
      rw [firstAdmitted_of_followed follows.follow_eq] at admitted
      split at admitted
      · cases admitted
      · cases admitted
        rfl
      · rw [firstAdmitted] at admitted
        cases admitted

/-- What is selected is the first alternative that admits the value, with its references
followed. -/
theorem exists_admitsFirst {alternatives : List Node} {target : Node}
    (selected : schema.selectBranch value alternatives = .ok (some target)) :
    ∃ position alternative, schema.AdmitsFirst value alternatives position alternative ∧
      schema.resolve alternative = .ok (some target) := by
  obtain ⟨front, alternative, back, rfl, passed, admitted⟩ := exists_admitted selected
  have atPosition : (front ++ alternative :: back)[front.length]? = some alternative := by simp
  have earlier : (front ++ alternative :: back).take front.length = front := by simp
  refine ⟨front.length, alternative, ⟨atPosition, ?_, target, admitted⟩,
    resolve_of_admitted admitted⟩
  rw [earlier]
  exact passed

theorem AdmitsFirst.effective_ne_none {alternatives : List Node} {position : Nat}
    {alternative : Node} (first : schema.AdmitsFirst value alternatives position alternative) :
    schema.effective value alternative ≠ .ok none := by
  obtain ⟨target, admitted⟩ := first.admitted
  rw [effective, ← effectiveAlternative_of_admitted admitted []]
  intro dropped
  have unselected := (effectiveAlternative_eq_none_iff [alternative]).mp dropped
  rw [selectBranch, unselected] at admitted
  cases admitted

/-! ## Selection and resolution agree -/

theorem exists_follow_of_resolve {node target : Node}
    (resolves : schema.resolve node = .ok (some target)) :
    ∃ inner, schema.follow [] node = .ok (some (target, inner)) := by
  unfold resolve at resolves
  cases followed : schema.follow [] node with
  | error cycle =>
      rw [followed] at resolves
      cases resolves
  | ok found =>
      cases found with
      | none =>
          rw [followed] at resolves
          cases resolves
      | some arrived =>
          rw [followed] at resolves
          cases resolves
          exact ⟨arrived.2, rfl⟩

theorem chosen_of_never {node : Node} {found : Option Node} (never : node.never = true)
    (succeeds : schema.chosen value stack node = .ok found) : found = none := by
  have refused : ∀ other : Node, other.never = true → keepIfAccepted value other = none := by
    intro other never
    simp [keepIfAccepted, Node.acceptsType, never]
  unfold chosen at succeeds
  split at succeeds
  · split at succeeds
    · cases succeeds
    · exact (Except.ok.inj succeeds).symm
    · next branch _ =>
        have overlaid : (node.base.overlay branch).never = true := by
          rw [Node.base_overlay, Node.never_overlay, never, Bool.true_or]
        rw [refused _ overlaid] at succeeds
        exact (Except.ok.inj succeeds).symm
  · rw [refused node never] at succeeds
    exact (Except.ok.inj succeeds).symm

/-- For a union that accepts the value, no node is found where no alternative is selected, and
only there, whatever references have been entered before. -/
theorem chosen_composed_eq_none_iff {node merged : Node} {found : Option Node}
    (union : node.isUnion = true) (accepts : node.acceptsType value = true)
    (composes : schema.composed value stack node = .ok merged)
    (succeeds : schema.chosen value stack merged = .ok found) :
    found = none ↔ schema.selectBranch value node.alternatives = .ok none := by
  have mergedAccepts := composed_acceptsType accepts composes
  rw [← composed_isUnion composes] at union
  rw [← composed_alternatives composes]
  have entered : ∃ branch,
      schema.effectiveAlternative value stack merged.alternatives = .ok branch := by
    rw [chosen_of_isUnion union] at succeeds
    split at succeeds
    · cases succeeds
    · next dropped => exact ⟨none, dropped⟩
    · next branch entered => exact ⟨some branch, entered⟩
  obtain ⟨branch, entered⟩ := entered
  obtain ⟨selected, selects⟩ := exists_firstAdmitted entered
  -- the references on the stack could only have made selecting fail
  obtain ⟨selected', selects', same⟩ := firstAdmitted_of_fewer selects (List.nil_subset stack)
  have dropped : schema.chosen value stack merged = .ok none ↔ _ :=
    chosen_eq_none_iff mergedAccepts union
  rw [succeeds, effectiveAlternative_eq_none_iff, selects] at dropped
  rw [selectBranch, selects']
  simp only [Except.ok.injEq] at dropped ⊢
  rw [dropped, same]

/-- For a union without types of its own, no node is found where it admits no value at all or
no alternative is selected, and only there. -/
theorem effective_eq_none_iff {node target : Node} {found : Option Node}
    (resolves : schema.resolve node = .ok (some target)) (union : target.isUnion = true)
    (untyped : target.types = []) (succeeds : schema.effective value node = .ok found) :
    found = none ↔
      target.never = true ∨ schema.selectBranch value target.alternatives = .ok none := by
  obtain ⟨inner, followed⟩ := exists_follow_of_resolve resolves
  rw [effective, effectiveFrom_of_followed followed] at succeeds
  cases composes : schema.composed value inner target with
  | error cycle =>
      rw [composes] at succeeds
      cases succeeds
  | ok merged =>
      rw [composes] at succeeds
      have chosen : schema.chosen value inner merged = .ok found := succeeds
      cases never : target.never with
      | true => simp [chosen_of_never (composed_never never composes) chosen]
      | false =>
          have accepts := Node.acceptsType_of_untyped untyped never value
          rw [chosen_composed_eq_none_iff union accepts composes chosen]
          simp

/-! ## Written nodes -/

/-- A written node that admits no value at all is no union. -/
theorem never_of_written {form : Form} (union : form.toNode.isUnion = true) :
    form.toNode.never = false := by
  cases form with
  | boolean admitted =>
      cases admitted with
      | true => rfl
      | false => cases union
  | keywords values =>
      cases values
      rw [Form.toNode]

/-- What references name in a loaded schema is written. -/
theorem written_of_definition? {source : Json} (loaded : Schema.load source = .ok schema)
    {reference : String} {node : Node} (named : schema.definition? reference = some node) :
    ∃ form : Form, form.toNode = node := by
  unfold load at loaded
  split at loaded
  · next form _ =>
      cases loaded
      unfold definition? at named
      split at named
      · exact ⟨form, Option.some.inj named⟩
      · have member := mem_of_lookup named
        cases form with
        | boolean admitted => cases member
        | keywords values =>
            simp only [definitionsOfForm, definitionsOf, List.mem_append, List.mem_map,
              Prod.mk.injEq] at member
            rcases member with ⟨entry, _, _, same⟩ | ⟨entry, _, _, same⟩
            · exact ⟨entry.2, same⟩
            · exact ⟨entry.2, same⟩
  · cases loaded

theorem written_of_follows {source : Json} (loaded : Schema.load source = .ok schema)
    {stack after : List String} {node target : Node}
    (follows : schema.Follows stack node (.ok (some target)) after)
    (written : ∃ form : Form, form.toNode = node) : ∃ form : Form, form.toNode = target :=
  follow_keeps (fun node => ∃ form : Form, form.toNode = node) (written_of_definition? loaded)
    written follows.follow_eq

/-- Selection and resolution agree.  The alternative that selection finds first is never
dropped when it is resolved.  A union that says nothing on types comes to no node exactly
where selection finds nothing, unless it admits no value at all; no union of a loaded schema
does that. -/
theorem selection_agrees_with_resolution (schema : Schema) (value : Json) :
    ((∀ alternatives target, schema.selectBranch value alternatives = .ok (some target) →
        ∃ position alternative, schema.AdmitsFirst value alternatives position alternative ∧
          schema.resolve alternative = .ok (some target)) ∧
      ∀ alternatives position alternative,
        schema.AdmitsFirst value alternatives position alternative →
          schema.effective value alternative ≠ .ok none) ∧
    (∀ node target found, schema.resolve node = .ok (some target) → target.isUnion = true →
      target.types = [] → schema.effective value node = .ok found →
      (found = none ↔
        target.never = true ∨ schema.selectBranch value target.alternatives = .ok none)) ∧
    (∀ source, Schema.load source = .ok schema → ∀ (form : Form) target found,
      schema.resolve form.toNode = .ok (some target) → target.isUnion = true →
      target.types = [] → schema.effective value form.toNode = .ok found →
      (found = none ↔ schema.selectBranch value target.alternatives = .ok none)) := by
  have general : ∀ node target found, schema.resolve node = .ok (some target) →
      target.isUnion = true → target.types = [] → schema.effective value node = .ok found →
      (found = none ↔
        target.never = true ∨ schema.selectBranch value target.alternatives = .ok none) :=
    fun _ _ _ => effective_eq_none_iff
  refine ⟨⟨fun _ _ => exists_admitsFirst, fun _ _ _ => AdmitsFirst.effective_ne_none⟩,
    general, ?_⟩
  intro source loaded form target found resolves union untyped succeeds
  rw [general _ target found resolves union untyped succeeds]
  obtain ⟨outcome, after, follows⟩ := exists_follows schema [] form.toNode
  have arrives : outcome = .ok (some target) := follows.outcome_eq.symm.trans resolves
  rw [arrives] at follows
  obtain ⟨written, rfl⟩ := written_of_follows loaded follows ⟨form, rfl⟩
  simp [never_of_written union]

/-- Places that are given by a name or by an address. -/
def placeSource : Json :=
  .object [
    ("$ref", .string "#/definitions/place"),
    ("definitions", .object [("place", .object [
      ("allOf", .array [.object [("type", .string "object")]]),
      ("anyOf", .array [
        .object [("required", .array [.string "name"])],
        .object [("properties", .object [("url", .object [])])]])])])]

/-- The node of addresses. -/
def addressNode : Node :=
  { Node.any with properties := [("url", Node.any)] }

/-- The node of places. -/
def placeNode : Node :=
  { Node.any with
    allOf := [{ Node.any with types := [.object] }]
    anyOf := [{ Node.any with required := ["name"] }, addressNode] }

/-- The schema of places. -/
def placeSchema : Schema :=
  ⟨identity placeSource, { Node.any with reference := some "#/definitions/place" },
    [("#/definitions/place", placeNode)]⟩

/-- An address is no name, and the second alternative applies to it. -/
theorem selection_agrees_with_resolution_on_places :
    let value := Json.object [("url", .null)]
    let reference := Form.keywords
      { KeywordValues.absent with reference := some "#/definitions/place" }
    Schema.load placeSource = .ok placeSchema ∧
      placeSchema.resolve reference.toNode = .ok (some placeNode) ∧
      placeSchema.AdmitsFirst value placeNode.alternatives 1 addressNode ∧
      placeSchema.effective value addressNode ≠ .ok none ∧
      ∃ found, placeSchema.effective value reference.toNode = .ok found ∧ found ≠ none := by
  intro value reference
  obtain ⟨⟨_, applies⟩, _, agrees⟩ := selection_agrees_with_resolution placeSchema value
  have follows : placeSchema.Follows [] reference.toNode (.ok (some placeNode)) _ :=
    .entered rfl (by simp) rfl (.arrived rfl)
  have merges : placeSchema.Merges value ["#/definitions/place"] placeNode (.ok _) _ :=
    .merged (List.cons_ne_nil _ _)
      (.overlaid (.cut (.merged (.arrived rfl) (.plain rfl) (.single rfl))) .done)
  have selects : placeSchema.Selects value ["#/definitions/place"] 0 placeNode.alternatives
      (.ok (some (1, _))) _ :=
    .refused (.arrived rfl) (.refused rfl) (.admitted (.arrived rfl) (.single rfl rfl))
  have step : placeSchema.EffectiveStep value [] reference.toNode (.ok _) _ :=
    .merged follows merges (.chosen rfl selects rfl
      (.cut (.merged (.arrived rfl) (.plain rfl) (.single rfl))))
  have resolves : placeSchema.resolve reference.toNode = .ok (some placeNode) :=
    follows.outcome_eq
  have succeeds : placeSchema.effective value reference.toNode = .ok _ := step.spec.2
  have second : placeSchema.Admits value [] addressNode (.ok true) [] := .single rfl rfl
  have fromStart : placeSchema.Selects value [] 0 placeNode.alternatives (.ok (some (1, _))) [] :=
    .refused (.arrived rfl) (.refused rfl) (.admitted (.arrived rfl) second)
  have passed : placeSchema.Selects value [] 0 (placeNode.alternatives.take 1) (.ok none) [] :=
    .refused (.arrived rfl) (.refused rfl) .exhausted
  have admitted : placeSchema.Selects value [] 0 [addressNode] (.ok (some (0, _))) [] :=
    .admitted (.arrived rfl) second
  have first : placeSchema.AdmitsFirst value placeNode.alternatives 1 addressNode :=
    ⟨rfl, passed.outcome_eq, _, admitted.outcome_eq⟩
  have selected : placeSchema.selectBranch value placeNode.alternatives ≠ .ok none := by
    rw [selectBranch, fromStart.outcome_eq]
    simp [Except.map]
  have found := mt (agrees placeSource rfl _ _ _ resolves rfl rfl succeeds).mp selected
  exact ⟨rfl, resolves, first, applies _ _ _ first, _, succeeds, found⟩

end Schema

end Pipewright
