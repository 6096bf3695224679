import Pipewright.Resolve

/-!
# Runs of selection

Resolution keeps one stack of the references it has entered.  Following references
pushes them, and whoever follows references cuts the stack back afterwards, also
after a failure.  A run takes the stack before to an outcome and the stack after.

Following references and selecting an alternative have a run from every stack, and
its outcome is the one that `follow` and `firstAdmitted` give.
-/

namespace Pipewright

namespace Schema

/-- Following references.  A repeated reference is pushed once more before it is
reported. -/
inductive Follows (schema : Schema) :
    List String → Node → Resolved (Option Node) → List String → Prop where
  | arrived {stack : List String} {node : Node} :
      node.reference = none → Follows schema stack node (.ok (some node)) stack
  | repeated {stack : List String} {node : Node} {reference : String} :
      node.reference = some reference → reference ∈ stack →
      Follows schema stack node (.error ⟨stack ++ [reference]⟩) (stack ++ [reference])
  | dangling {stack : List String} {node : Node} {reference : String} :
      node.reference = some reference → reference ∉ stack →
      schema.definition? reference = none → Follows schema stack node (.ok none) stack
  | entered {stack after : List String} {node target : Node} {reference : String}
      {outcome : Resolved (Option Node)} :
      node.reference = some reference → reference ∉ stack →
      schema.definition? reference = some target →
      Follows schema (stack ++ [reference]) target outcome after →
      Follows schema stack node outcome after

mutual

/-- Trying alternatives from the given position on.  The one that is selected is
reported by its position and with its references followed. -/
inductive Selects (schema : Schema) (value : Json) :
    List String → Nat → List Node → Resolved (Option (Nat × Node)) → List String → Prop where
  | exhausted {stack : List String} {position : Nat} :
      Selects schema value stack position [] (.ok none) stack
  | unfollowed {stack inner : List String} {position : Nat} {alternative : Node}
      {rest : List Node} {cycle : CyclicReference} :
      Follows schema stack alternative (.error cycle) inner →
      Selects schema value stack position (alternative :: rest) (.error cycle)
        (inner.take stack.length)
  | dangling {stack inner after : List String} {position : Nat} {alternative : Node}
      {rest : List Node} {outcome : Resolved (Option (Nat × Node))} :
      Follows schema stack alternative (.ok none) inner →
      Selects schema value (inner.take stack.length) (position + 1) rest outcome after →
      Selects schema value stack position (alternative :: rest) outcome after
  | failed {stack inner between : List String} {position : Nat} {alternative target : Node}
      {rest : List Node} {cycle : CyclicReference} :
      Follows schema stack alternative (.ok (some target)) inner →
      Admits schema value inner target (.error cycle) between →
      Selects schema value stack position (alternative :: rest) (.error cycle)
        (between.take stack.length)
  | refused {stack inner between after : List String} {position : Nat}
      {alternative target : Node} {rest : List Node}
      {outcome : Resolved (Option (Nat × Node))} :
      Follows schema stack alternative (.ok (some target)) inner →
      Admits schema value inner target (.ok false) between →
      Selects schema value (between.take stack.length) (position + 1) rest outcome after →
      Selects schema value stack position (alternative :: rest) outcome after
  | admitted {stack inner between : List String} {position : Nat}
      {alternative target : Node} {rest : List Node} :
      Follows schema stack alternative (.ok (some target)) inner →
      Admits schema value inner target (.ok true) between →
      Selects schema value stack position (alternative :: rest)
        (.ok (some (position, target))) (between.take stack.length)

/-- Checking a node that is no reference. -/
inductive Admits (schema : Schema) (value : Json) :
    List String → Node → Resolved Bool → List String → Prop where
  | refused {stack : List String} {node : Node} :
      node.admitsAlone value = false → Admits schema value stack node (.ok false) stack
  | single {stack : List String} {node : Node} :
      node.admitsAlone value = true → node.isUnion = false →
      Admits schema value stack node (.ok true) stack
  | union {stack after : List String} {node : Node}
      {outcome : Resolved (Option (Nat × Node))} :
      node.admitsAlone value = true → node.isUnion = true →
      Selects schema value stack 0 node.alternatives outcome after →
      Admits schema value stack node (outcome.map Option.isSome) after

end

variable {schema : Schema} {value : Json}

/-! ## Following references -/

theorem follow_of_no_reference {stack : List String} {node : Node}
    (noReference : node.reference = none) :
    schema.follow stack node = .ok (some (node, stack)) := by
  unfold follow
  simp only [noReference]

theorem follow_of_seen {stack : List String} {node : Node} {reference : String}
    (isReference : node.reference = some reference) (seen : reference ∈ stack) :
    schema.follow stack node = .error ⟨stack ++ [reference]⟩ := by
  unfold follow
  simp [isReference, seen]

theorem follow_of_missing {stack : List String} {node : Node} {reference : String}
    (isReference : node.reference = some reference) (fresh : reference ∉ stack)
    (missing : schema.definition? reference = none) :
    schema.follow stack node = .ok none := by
  unfold follow
  simp only [isReference]
  rw [dif_pos (by simpa using fresh)]
  split
  · simp_all
  · rfl

theorem follow_of_found {stack : List String} {node target : Node} {reference : String}
    (isReference : node.reference = some reference) (fresh : reference ∉ stack)
    (found : schema.definition? reference = some target) :
    schema.follow stack node = schema.follow (stack ++ [reference]) target := by
  rw [follow]
  simp only [isReference]
  rw [dif_pos (by simpa using fresh)]
  split
  · simp_all
  · simp_all

/-- Following only pushes. -/
theorem Follows.pushes {stack after : List String} {node : Node}
    {outcome : Resolved (Option Node)} (run : schema.Follows stack node outcome after) :
    stack <+: after := by
  induction run with
  | arrived => exact List.prefix_refl _
  | repeated => exact List.prefix_append _ _
  | dangling => exact List.prefix_refl _
  | entered _ _ _ _ inner => exact (List.prefix_append _ _).trans inner

theorem Follows.outcome_eq {stack after : List String} {node : Node}
    {outcome : Resolved (Option Node)} (run : schema.Follows stack node outcome after) :
    (schema.follow stack node).map (·.map (·.1)) = outcome := by
  induction run with
  | arrived noReference =>
      rw [follow_of_no_reference noReference]
      rfl
  | repeated isReference seen =>
      rw [follow_of_seen isReference seen]
      rfl
  | dangling isReference fresh missing =>
      rw [follow_of_missing isReference fresh missing]
      rfl
  | entered isReference fresh found _ inner =>
      rw [follow_of_found isReference fresh found, inner]

theorem Follows.follow_error {stack after : List String} {node : Node}
    {cycle : CyclicReference} (run : schema.Follows stack node (.error cycle) after) :
    schema.follow stack node = .error cycle := by
  have same := run.outcome_eq
  cases followed : schema.follow stack node with
  | error other =>
      rw [followed] at same
      cases same
      rfl
  | ok found =>
      rw [followed] at same
      cases same

theorem Follows.follow_dangling {stack after : List String} {node : Node}
    (run : schema.Follows stack node (.ok none) after) :
    schema.follow stack node = .ok none := by
  have same := run.outcome_eq
  cases followed : schema.follow stack node with
  | error other =>
      rw [followed] at same
      cases same
  | ok found =>
      rw [followed] at same
      cases found with
      | none => rfl
      | some arrived => cases same

/-- Where following arrives, it reports the stack that it leaves. -/
theorem Follows.follow_eq {stack after : List String} {node target : Node}
    (run : schema.Follows stack node (.ok (some target)) after) :
    schema.follow stack node = .ok (some (target, after)) := by
  generalize same : (Except.ok (some target) : Resolved (Option Node)) = outcome at run
  induction run with
  | arrived noReference =>
      cases same
      exact follow_of_no_reference noReference
  | repeated => cases same
  | dangling => cases same
  | entered isReference fresh found _ inner =>
      rw [follow_of_found isReference fresh found, inner same]

theorem exists_follows (schema : Schema) (stack : List String) (node : Node) :
    ∃ outcome after, schema.Follows stack node outcome after := by
  fun_induction follow schema stack node with
  | case1 stack node noReference => exact ⟨_, _, .arrived noReference⟩
  | case2 stack node reference isReference fresh target found inner =>
      obtain ⟨outcome, after, run⟩ := inner
      exact ⟨outcome, after, .entered isReference (by simpa using fresh) found run⟩
  | case3 stack node reference isReference fresh missing =>
      exact ⟨_, _, .dangling isReference (by simpa using fresh) missing⟩
  | case4 stack node reference isReference seen =>
      exact ⟨_, _, .repeated isReference (by simpa using seen)⟩

/-- What holds of every node that a reference names is kept on the way along references. -/
theorem follow_keeps (keeps : Node → Prop)
    (named : ∀ {reference : String} {target : Node},
      schema.definition? reference = some target → keeps target)
    {stack inner : List String} {node target : Node} (kept : keeps node)
    (followed : schema.follow stack node = .ok (some (target, inner))) : keeps target := by
  fun_induction follow schema stack node with
  | case1 =>
      cases followed
      exact kept
  | case2 _ _ _ _ _ _ found step => exact step (named found) followed
  | case3 => cases followed
  | case4 => cases followed

theorem Follows.take_eq {stack after : List String} {node : Node}
    {outcome : Resolved (Option Node)} (run : schema.Follows stack node outcome after) :
    after.take stack.length = stack :=
  (List.prefix_iff_eq_take.mp run.pushes).symm

/-! ## Selecting an alternative -/

theorem firstAdmitted_of_unfollowed {stack : List String} {alternative : Node}
    {cycle : CyclicReference} (unfollowed : schema.follow stack alternative = .error cycle)
    (rest : List Node) :
    schema.firstAdmitted value stack (alternative :: rest) = .error cycle := by
  rw [firstAdmitted]
  split <;> simp_all

theorem firstAdmitted_of_dangling {stack : List String} {alternative : Node}
    (dangling : schema.follow stack alternative = .ok none) (rest : List Node) :
    schema.firstAdmitted value stack (alternative :: rest) =
      schema.firstAdmitted value stack rest := by
  conv => lhs; rw [firstAdmitted]
  split <;> simp_all

theorem firstAdmitted_of_followed {stack inner : List String} {alternative target : Node}
    (followed : schema.follow stack alternative = .ok (some (target, inner)))
    (rest : List Node) :
    schema.firstAdmitted value stack (alternative :: rest) =
      match schema.admits value inner target with
      | .error cycle => .error cycle
      | .ok true => .ok (some target)
      | .ok false => schema.firstAdmitted value stack rest := by
  conv => lhs; rw [firstAdmitted]
  split
  · simp_all
  · simp_all
  · next same =>
      rw [followed] at same
      cases same
      rfl

theorem effectiveAlternative_of_failed {stack : List String} {alternative : Node}
    {cycle : CyclicReference}
    (failed : schema.firstAdmitted value stack [alternative] = .error cycle)
    (rest : List Node) :
    schema.effectiveAlternative value stack (alternative :: rest) = .error cycle := by
  rw [effectiveAlternative, failed]

theorem effectiveAlternative_of_passed {stack : List String} {alternative : Node}
    (passed : schema.firstAdmitted value stack [alternative] = .ok none) (rest : List Node) :
    schema.effectiveAlternative value stack (alternative :: rest) =
      schema.effectiveAlternative value stack rest := by
  conv => lhs; rw [effectiveAlternative]
  rw [passed]

theorem effectiveAlternative_of_admitted {stack : List String} {alternative target : Node}
    (admitted : schema.firstAdmitted value stack [alternative] = .ok (some target))
    (rest : List Node) :
    schema.effectiveAlternative value stack (alternative :: rest) =
      schema.effectiveFrom value stack alternative := by
  rw [effectiveAlternative, admitted]

mutual

/-- Selecting leaves the stack as it was. -/
theorem Selects.stack_eq {stack after : List String} {position : Nat}
    {alternatives : List Node} {outcome : Resolved (Option (Nat × Node))} :
    schema.Selects value stack position alternatives outcome after → after = stack
  | .exhausted => rfl
  | .unfollowed follows => follows.take_eq
  | .dangling follows selects => selects.stack_eq.trans follows.take_eq
  | .failed follows admits => by rw [admits.stack_eq, follows.take_eq]
  | .refused follows admits selects => by
      rw [selects.stack_eq, admits.stack_eq, follows.take_eq]
  | .admitted follows admits => by rw [admits.stack_eq, follows.take_eq]

/-- Checking leaves the stack as it was. -/
theorem Admits.stack_eq {stack after : List String} {node : Node} {outcome : Resolved Bool} :
    schema.Admits value stack node outcome after → after = stack
  | .refused _ => rfl
  | .single _ _ => rfl
  | .union _ _ selects => selects.stack_eq

end

mutual

theorem Selects.outcome_eq {stack after : List String} {position : Nat}
    {alternatives : List Node} {outcome : Resolved (Option (Nat × Node))} :
    schema.Selects value stack position alternatives outcome after →
      schema.firstAdmitted value stack alternatives = outcome.map (·.map (·.2))
  | .exhausted => by
      rw [firstAdmitted]
      rfl
  | .unfollowed follows => by
      rw [firstAdmitted_of_unfollowed follows.follow_error]
      rfl
  | .dangling follows selects => by
      rw [firstAdmitted_of_dangling follows.follow_dangling, ← selects.outcome_eq,
        follows.take_eq]
  | .failed follows admits => by
      rw [firstAdmitted_of_followed follows.follow_eq, admits.outcome_eq]
      rfl
  | .refused follows admits selects => by
      rw [firstAdmitted_of_followed follows.follow_eq, admits.outcome_eq,
        ← selects.outcome_eq, admits.stack_eq, follows.take_eq]
  | .admitted follows admits => by
      rw [firstAdmitted_of_followed follows.follow_eq, admits.outcome_eq]
      rfl

theorem Admits.outcome_eq {stack after : List String} {node : Node} {outcome : Resolved Bool} :
    schema.Admits value stack node outcome after → schema.admits value stack node = outcome
  | .refused refused => by
      unfold admits
      simp [refused]
  | .single admitted single => by
      unfold admits
      simp [admitted, single]
  | @Admits.union _ _ _ _ _ found admitted union selects => by
      unfold admits
      simp only [admitted, union, selects.outcome_eq]
      cases found with
      | error cycle => rfl
      | ok chosen => cases chosen <;> rfl

end

theorem firstAdmitted_single_of_dangling {stack inner : List String} {alternative : Node}
    (follows : schema.Follows stack alternative (.ok none) inner) :
    schema.firstAdmitted value stack [alternative] = .ok none := by
  rw [firstAdmitted_of_dangling follows.follow_dangling, firstAdmitted]

theorem firstAdmitted_single_of_refused {stack inner between : List String}
    {alternative target : Node}
    (follows : schema.Follows stack alternative (.ok (some target)) inner)
    (admits : schema.Admits value inner target (.ok false) between) :
    schema.firstAdmitted value stack [alternative] = .ok none := by
  rw [firstAdmitted_of_followed follows.follow_eq, admits.outcome_eq]
  simp only [firstAdmitted]

theorem Selects.effectiveAlternative_of_unselected {stack after : List String}
    {position : Nat} {alternatives : List Node} {cycle : CyclicReference} :
    schema.Selects value stack position alternatives (.error cycle) after →
      schema.effectiveAlternative value stack alternatives = .error cycle
  | .unfollowed follows =>
      effectiveAlternative_of_failed (firstAdmitted_of_unfollowed follows.follow_error []) _
  | .dangling follows selects => by
      rw [effectiveAlternative_of_passed (firstAdmitted_single_of_dangling follows)]
      rw [follows.take_eq] at selects
      exact selects.effectiveAlternative_of_unselected
  | .failed follows admits => by
      apply effectiveAlternative_of_failed
      rw [firstAdmitted_of_followed follows.follow_eq, admits.outcome_eq]
  | .refused follows admits selects => by
      rw [effectiveAlternative_of_passed (firstAdmitted_single_of_refused follows admits)]
      rw [admits.stack_eq, follows.take_eq] at selects
      exact selects.effectiveAlternative_of_unselected

theorem Selects.effectiveAlternative_of_unmatched {stack after : List String}
    {position : Nat} {alternatives : List Node} :
    schema.Selects value stack position alternatives (.ok none) after →
      schema.effectiveAlternative value stack alternatives = .ok none
  | .exhausted => by rw [effectiveAlternative]
  | .dangling follows selects => by
      rw [effectiveAlternative_of_passed (firstAdmitted_single_of_dangling follows)]
      rw [follows.take_eq] at selects
      exact selects.effectiveAlternative_of_unmatched
  | .refused follows admits selects => by
      rw [effectiveAlternative_of_passed (firstAdmitted_single_of_refused follows admits)]
      rw [admits.stack_eq, follows.take_eq] at selects
      exact selects.effectiveAlternative_of_unmatched

/-- The alternative at the selected position is the one that is entered. -/
theorem Selects.effectiveAlternative_of_selected {stack after : List String}
    {position found : Nat} {alternatives : List Node} {target : Node} :
    schema.Selects value stack position alternatives (.ok (some (found, target))) after →
      ∃ index alternative, found = position + index ∧
        alternatives[index]? = some alternative ∧
        schema.effectiveAlternative value stack alternatives =
          schema.effectiveFrom value stack alternative
  | .dangling follows selects => by
      rw [effectiveAlternative_of_passed (firstAdmitted_single_of_dangling follows)]
      rw [follows.take_eq] at selects
      obtain ⟨index, alternative, place, atIndex, same⟩ :=
        selects.effectiveAlternative_of_selected
      exact ⟨index + 1, alternative, by omega, by simpa using atIndex, same⟩
  | .refused follows admits selects => by
      rw [effectiveAlternative_of_passed (firstAdmitted_single_of_refused follows admits)]
      rw [admits.stack_eq, follows.take_eq] at selects
      obtain ⟨index, alternative, place, atIndex, same⟩ :=
        selects.effectiveAlternative_of_selected
      exact ⟨index + 1, alternative, by omega, by simpa using atIndex, same⟩
  | @Selects.admitted _ _ _ _ _ _ alternative _ rest follows admits => by
      have admitted : schema.firstAdmitted value stack [alternative] = .ok (some target) := by
        rw [firstAdmitted_of_followed follows.follow_eq, admits.outcome_eq]
      exact ⟨0, alternative, rfl, rfl, effectiveAlternative_of_admitted admitted rest⟩

theorem Selects.effectiveAlternative_at {stack after : List String} {found : Nat}
    {alternatives : List Node} {target alternative : Node}
    (selects : schema.Selects value stack 0 alternatives (.ok (some (found, target))) after)
    (atPosition : alternatives[found]? = some alternative) :
    schema.effectiveAlternative value stack alternatives =
      schema.effectiveFrom value stack alternative := by
  obtain ⟨index, entered, place, atIndex, same⟩ := selects.effectiveAlternative_of_selected
  rw [place, Nat.zero_add, atIndex] at atPosition
  cases atPosition
  exact same

theorem Selects.exists_alternative {stack after : List String} {found : Nat}
    {alternatives : List Node} {target : Node}
    (selects : schema.Selects value stack 0 alternatives (.ok (some (found, target))) after) :
    ∃ alternative, alternatives[found]? = some alternative := by
  obtain ⟨index, entered, place, atIndex, _⟩ := selects.effectiveAlternative_of_selected
  exact ⟨entered, by rw [place, Nat.zero_add, atIndex]⟩

mutual

theorem exists_selects (schema : Schema) (value : Json) (stack : List String) (position : Nat)
    (alternatives : List Node) :
    ∃ outcome after, schema.Selects value stack position alternatives outcome after := by
  match alternatives with
  | [] => exact ⟨_, _, .exhausted⟩
  | alternative :: rest =>
      obtain ⟨followed, inner, follows⟩ := exists_follows schema stack alternative
      obtain ⟨outcome, after, selects⟩ :=
        exists_selects schema value stack (position + 1) rest
      match followed with
      | .error cycle => exact ⟨_, _, .unfollowed follows⟩
      | .ok none => exact ⟨outcome, after, .dangling follows (by rwa [follows.take_eq])⟩
      | .ok (some target) =>
          obtain ⟨verdict, between, admits⟩ := exists_admits schema value inner target
          have cutBack : between.take stack.length = stack := by
            rw [admits.stack_eq, follows.take_eq]
          match verdict with
          | .error cycle => exact ⟨_, _, .failed follows admits⟩
          | .ok true => exact ⟨_, _, .admitted follows admits⟩
          | .ok false => exact ⟨outcome, after, .refused follows admits (by rwa [cutBack])⟩
termination_by (schema.freeReferences stack, sizeOf alternatives)
decreasing_by
  · apply Prod.Lex.right
    simp only [List.cons.sizeOf_spec]
    omega
  · rcases follow_progress follows.follow_eq with ⟨sameStack, sameNode⟩ | further
    · subst sameStack sameNode
      apply Prod.Lex.right
      simp only [List.cons.sizeOf_spec]
      omega
    · exact Prod.Lex.left _ _ further

theorem exists_admits (schema : Schema) (value : Json) (stack : List String) (node : Node) :
    ∃ outcome after, schema.Admits value stack node outcome after := by
  cases alone : node.admitsAlone value with
  | false => exact ⟨_, _, .refused alone⟩
  | true =>
      cases union : node.isUnion with
      | false => exact ⟨_, _, .single alone union⟩
      | true =>
          obtain ⟨outcome, after, selects⟩ :=
            exists_selects schema value stack 0 node.alternatives
          exact ⟨_, _, .union alone union selects⟩
termination_by (schema.freeReferences stack, sizeOf node)
decreasing_by
  apply Prod.Lex.right
  exact Node.sizeOf_alternatives_lt node

end

end Schema

end Pipewright
