import Pipewright.Counting
import Pipewright.Schema.Basic

/-!
# Resolution

At every place of a document at most one node of the schema applies: references
are followed, `allOf` branches are merged, and of the alternatives of a union the
first one that admits the value is chosen.

The references entered on the way to a node form a chain.  A reference that is
already on the chain makes the schema cyclic there.  Following references
shortens the list of references that are not on the chain yet, and everything
else goes down into the node, so resolution ends on every schema.
-/

namespace Pipewright

/-- A reference was entered again while it was being resolved; it is the last of
the chain. -/
structure CyclicReference where
  chain : List String
deriving DecidableEq, Repr

/-- The wording of a cyclic reference. -/
def CyclicReference.message (cycle : CyclicReference) : String :=
  "cyclic schema reference: " ++ String.intercalate " -> " cycle.chain

/-- The outcome of resolution. -/
abbrev Resolved (α : Type) := Except CyclicReference α

namespace Schema

/-- Every reference that names a node. -/
def references (schema : Schema) : List String :=
  "#" :: schema.definitions.map (·.1)

/-- The number of references that are not on a chain. -/
def freeReferences (schema : Schema) (chain : List String) : Nat :=
  schema.references.countP fun reference => !chain.contains reference

/-- A key that a table has is among its keys. -/
private theorem mem_keys_of_lookup {α : Type} {table : List (String × α)} {key : String}
    {value : α} (found : table.lookup key = some value) : key ∈ table.map (·.1) := by
  induction table with
  | nil => cases found
  | cons entry rest inner =>
      rw [List.lookup_cons] at found
      split at found
      · next same =>
          have equal : key = entry.1 := by simpa using same
          simp [equal]
      · exact List.mem_cons_of_mem _ (inner found)

/-- A reference that names a node is one of the schema's references. -/
theorem mem_references_of_definition? {schema : Schema} {reference : String} {node : Node}
    (found : schema.definition? reference = some node) : reference ∈ schema.references := by
  unfold definition? at found
  unfold references
  split at found
  · next root => simp [root]
  · exact List.mem_cons_of_mem _ (mem_keys_of_lookup found)

/-- Entering a reference that names a node leaves fewer references free. -/
theorem freeReferences_append_lt {schema : Schema} {chain : List String} {reference : String}
    {node : Node} (absent : chain.contains reference = false)
    (found : schema.definition? reference = some node) :
    schema.freeReferences (chain ++ [reference]) < schema.freeReferences chain :=
  countP_append_single_lt (mem_references_of_definition? found) absent

/-- Follow references from a node to one that is no reference, and return it with
the extended chain.  A reference that names nothing leads nowhere. -/
def follow (schema : Schema) (chain : List String) (node : Node) :
    Resolved (Option (Node × List String)) :=
  match node.reference with
  | none => .ok (some (node, chain))
  | some reference =>
      if _absent : chain.contains reference = false then
        match _found : schema.definition? reference with
        | some target => schema.follow (chain ++ [reference]) target
        | none => .ok none
      else .error ⟨chain ++ [reference]⟩
termination_by schema.freeReferences chain
decreasing_by exact freeReferences_append_lt (by assumption) (by assumption)

/-- Following either stays at the node or leaves fewer references free. -/
theorem follow_progress {schema : Schema} {chain inner : List String} {node target : Node}
    (followed : schema.follow chain node = .ok (some (target, inner))) :
    (inner = chain ∧ target = node) ∨
      schema.freeReferences inner < schema.freeReferences chain := by
  fun_induction follow schema chain node with
  | case1 chain node _ =>
      cases followed
      exact .inl ⟨rfl, rfl⟩
  | case2 chain node reference _ absent next found step =>
      have entered := freeReferences_append_lt absent found
      rcases step followed with ⟨same, _⟩ | further
      · subst same
        exact .inr entered
      · exact .inr (Nat.lt_trans further entered)
  | case3 => cases followed
  | case4 => cases followed

end Schema

namespace Node

/-- The checks of a node on a value that need no other node: its type, its
enumeration, its required names, and that a set of named properties has a key in
common with a non-empty object. -/
def admitsAlone (node : Node) (value : Json) : Bool :=
  node.acceptsType value &&
    (match node.enumValues with
      | some allowed => allowed.any fun candidate => candidate.same value
      | none => true) &&
    (match value with
      | .object members =>
          node.required.all (fun name => (members.lookup name).isSome) &&
            (node.properties.isEmpty || members.isEmpty ||
              members.any fun member => (node.properties.lookup member.1).isSome)
      | _ => node.required.isEmpty && node.properties.isEmpty)

/-- The alternatives of a node are smaller than the node. -/
theorem sizeOf_alternatives_lt (node : Node) : sizeOf node.alternatives < sizeOf node := by
  cases node
  unfold alternatives
  split <;> simp +arith

/-- The branches of a node are smaller than the node. -/
theorem sizeOf_allOf_lt (node : Node) : sizeOf node.allOf < sizeOf node := by
  cases node
  simp +arith

end Node

namespace Schema

mutual

/-- The first alternative that admits the value, with its references followed. -/
def firstAdmitted (schema : Schema) (value : Json) (chain : List String)
    (alternatives : List Node) : Resolved (Option Node) :=
  match alternatives with
  | [] => .ok none
  | alternative :: rest =>
      match _followed : schema.follow chain alternative with
      | .error cycle => .error cycle
      | .ok none => schema.firstAdmitted value chain rest
      | .ok (some (target, inner)) =>
          match schema.admits value inner target with
          | .error cycle => .error cycle
          | .ok true => .ok (some target)
          | .ok false => schema.firstAdmitted value chain rest
termination_by (schema.freeReferences chain, sizeOf alternatives)
decreasing_by
  all_goals simp_wf
  · apply Prod.Lex.right
    omega
  · rcases Schema.follow_progress (by assumption) with ⟨sameChain, sameNode⟩ | further
    · subst sameChain sameNode
      apply Prod.Lex.right
      omega
    · exact Prod.Lex.left _ _ further
  · apply Prod.Lex.right
    omega

/-- Does a node that is no reference admit the value?  A union does when one of
its alternatives does. -/
def admits (schema : Schema) (value : Json) (chain : List String) (node : Node) :
    Resolved Bool :=
  if !node.admitsAlone value then .ok false
  else if node.isUnion then
    match schema.firstAdmitted value chain node.alternatives with
    | .error cycle => .error cycle
    | .ok chosen => .ok chosen.isSome
  else .ok true
termination_by (schema.freeReferences chain, sizeOf node)
decreasing_by
  apply Prod.Lex.right
  exact Node.sizeOf_alternatives_lt node

end

/-- A node, if it accepts the type of the value. -/
def keepIfAccepted (value : Json) (node : Node) : Option Node :=
  if node.acceptsType value then some node else none

mutual

/-- The single node that applies to a value at a place described by `node`. -/
def effectiveFrom (schema : Schema) (value : Json) (chain : List String) (node : Node) :
    Resolved (Option Node) :=
  match _followed : schema.follow chain node with
  | .error cycle => .error cycle
  | .ok none => .ok none
  | .ok (some (target, inner)) =>
      let merged :=
        if target.allOf.isEmpty then .ok target
        else schema.mergeBranches value inner target.base target.allOf
      match merged with
      | .error cycle => .error cycle
      | .ok merged =>
          if target.isUnion then
            match schema.effectiveAlternative value inner target.alternatives with
            | .error cycle => .error cycle
            | .ok none => .ok none
            | .ok (some branch) => .ok (keepIfAccepted value (merged.base.overlay branch))
          else .ok (keepIfAccepted value merged)
termination_by (schema.freeReferences chain, sizeOf node)
decreasing_by
  all_goals
    rcases Schema.follow_progress (by assumption) with ⟨sameChain, sameNode⟩ | further
    · subst sameChain sameNode
      apply Prod.Lex.right
      first
        | exact Node.sizeOf_allOf_lt _
        | exact Node.sizeOf_alternatives_lt _
    · exact Prod.Lex.left _ _ further

/-- Merge the branches that apply to the value over a node, in order; a branch
that does not apply is passed over. -/
def mergeBranches (schema : Schema) (value : Json) (chain : List String) (merged : Node)
    (branches : List Node) : Resolved Node :=
  match branches with
  | [] => .ok merged
  | branch :: rest =>
      match schema.effectiveFrom value chain branch with
      | .error cycle => .error cycle
      | .ok none => schema.mergeBranches value chain merged rest
      | .ok (some node) => schema.mergeBranches value chain (merged.overlay node) rest
termination_by (schema.freeReferences chain, sizeOf branches)
decreasing_by
  all_goals
    apply Prod.Lex.right
    simp only [List.cons.sizeOf_spec]
    omega

/-- The node that applies to the value by way of the first alternative that
admits it. -/
def effectiveAlternative (schema : Schema) (value : Json) (chain : List String)
    (alternatives : List Node) : Resolved (Option Node) :=
  match alternatives with
  | [] => .ok none
  | alternative :: rest =>
      match schema.firstAdmitted value chain [alternative] with
      | .error cycle => .error cycle
      | .ok none => schema.effectiveAlternative value chain rest
      | .ok (some _) => schema.effectiveFrom value chain alternative
termination_by (schema.freeReferences chain, sizeOf alternatives)
decreasing_by
  all_goals
    apply Prod.Lex.right
    simp only [List.cons.sizeOf_spec]
    omega

end

/-- Follow references from a node to one that is no reference. -/
def resolve (schema : Schema) (node : Node) : Resolved (Option Node) :=
  (schema.follow [] node).map fun found => found.map (·.1)

/-- The first alternative that admits the value, with its references followed. -/
def selectBranch (schema : Schema) (value : Json) (alternatives : List Node) :
    Resolved (Option Node) :=
  schema.firstAdmitted value [] alternatives

/-- The single node that applies to a value at a place described by `node`. -/
def effective (schema : Schema) (value : Json) (node : Node) : Resolved (Option Node) :=
  schema.effectiveFrom value [] node

end Schema

end Pipewright
