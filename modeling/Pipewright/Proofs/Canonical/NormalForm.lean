import Pipewright.Proofs.Canonical.Identification
import Pipewright.Proofs.Json.Injectivity
import Pipewright.Proofs.Unicode.ByteOrder

/-!
# Normal forms

A document is normal for a table when the keys of its objects ascend in byte order, no
lone scalar stands under a property with a rule, and its expressions are spelled with
single spaces.  Normalizing gives normal documents and leaves these as they are.  Keys may
hold expressions too; these are never rewritten.

That is seen in the text of a document.  Different doubles can have one text, but which
double stands in a place has no part in being normal.
-/

namespace Pipewright

namespace Canonical

open Expression

/-! ## Normal strings -/

/-- An expression of the given tokens, with single spaces. -/
def spelled (tokens : List (List Char)) : List Char :=
  if tokens.isEmpty then openMark ++ [' '] ++ closeMark
  else openMark ++ [' '] ++ [' '].intercalate tokens ++ [' '] ++ closeMark

/-- Every expression of the string is spelled with single spaces. -/
def IsTidy (text : String) : Prop :=
  ∀ hole ∈ (decompose text.toList).holes,
    openMark ++ hole.1 ++ closeMark = spelled (blankTokens hole.1)

theorem spelled_eq (body : List Char) :
    spelled (blankTokens body) = openMark ++ tidyBody body ++ closeMark := by
  unfold spelled tidyBody
  cases tokens : blankTokens body with
  | nil => rfl
  | cons token rest =>
      have joined := intercalate_append_separator [' '] (List.cons_ne_nil token rest)
      rw [if_neg (by simp), ← joined]
      simp

theorem isTidy_iff {text : String} :
    IsTidy text ↔ ∀ hole ∈ (decompose text.toList).holes, tidyBody hole.1 = hole.1 := by
  unfold IsTidy
  simp only [spelled_eq, List.append_cancel_right_eq, List.append_cancel_left_eq,
    @eq_comm _ (tidyBody _)]

theorem isTidy_tidy (text : String) : IsTidy (tidy text) := by
  rw [isTidy_iff, tidy, String.toList_ofList, decompose_tidyExpressions]
  intro hole listed
  obtain ⟨original, _, rfl⟩ := List.mem_map.mp listed
  exact tidyBody_tidyBody original.1

theorem IsTidy.tidy_eq {text : String} (isTidy : IsTidy text) : tidy text = text := by
  have kept : (decompose text.toList).mapBodies tidyBody = decompose text.toList := by
    have fixed : ∀ hole ∈ (decompose text.toList).holes, (tidyBody hole.1, hole.2) = id hole :=
      fun hole listed => congrArg (·, hole.2) (isTidy_iff.mp isTidy hole listed)
    exact congrArg (Decomposition.mk _) ((List.map_congr_left fixed).trans (List.map_id _))
  rw [tidy, tidyExpressions_eq, kept, assemble_decompose, String.ofList_toList]

/-! ## Normal documents -/

/-- The keys ascend in the order of their bytes, without repetition. -/
def Ascending (members : Members) : Prop :=
  (members.map (·.1)).Pairwise fun earlier later => encodedBytes earlier < encodedBytes later

theorem ascending_iff {members : Members} :
    Ascending members ↔ SortedByKey members ∧ (members.map (·.1)).Nodup := by
  unfold Ascending SortedByKey
  rw [List.Nodup, List.pairwise_map, List.pairwise_map, ← List.pairwise_and_iff]
  simp only [encodedBytes_lt_iff, lt_iff_le_and_ne]

/-- No scalar stands under a property that has a rule. -/
def Lifted (table : RuleTable) (member : String × Json) : Prop :=
  (table.get? member.1).isSome → isLiftable member.2 = false

/-- At every level keys ascend, scalars are lifted and expressions are tidy. -/
inductive IsNormal (table : RuleTable) : Json → Prop where
  | null : IsNormal table .null
  | boolean (value : Bool) : IsNormal table (.boolean value)
  | number (value : Number) : IsNormal table (.number value)
  | string {text : String} : IsTidy text → IsNormal table (.string text)
  | array {items : List Json} :
      (∀ item ∈ items, IsNormal table item) → IsNormal table (.array items)
  | object {members : Members} :
      Ascending members → (∀ member ∈ members, Lifted table member) →
      (∀ member ∈ members, IsNormal table member.2) → IsNormal table (.object members)

variable {table : RuleTable}

theorem isNormal_array {items : List Json} :
    IsNormal table (.array items) ↔ ∀ item ∈ items, IsNormal table item := by
  constructor
  · rintro ⟨⟩
    assumption
  · exact .array

theorem isNormal_object {members : Members} :
    IsNormal table (.object members) ↔ Ascending members ∧
      ∀ member ∈ members, Lifted table member ∧ IsNormal table member.2 := by
  constructor
  · rintro (_ | _ | _ | _ | _ | ⟨ascending, lifted, normal⟩)
    exact ⟨ascending, fun member listed => ⟨lifted member listed, normal member listed⟩⟩
  · rintro ⟨ascending, settled⟩
    exact .object ascending (fun member listed => (settled member listed).1)
      fun member listed => (settled member listed).2

/-! ## Lifting gives normal values -/

/-- An object with one member is normal when the member is. -/
theorem isNormal_singleton {key : String} {value : Json} (lifted : Lifted table (key, value))
    (normal : IsNormal table value) : IsNormal table (.object [(key, value)]) := by
  refine .object (List.pairwise_singleton _ _) ?_ ?_
  · intro member listed
    rw [List.mem_singleton.mp listed]
    exact lifted
  · intro member listed
    rw [List.mem_singleton.mp listed]
    exact normal

theorem isNormal_promoted {property : String} {scalar : Json} (normal : IsNormal table scalar) :
    IsNormal table (promoted table property scalar) := by
  unfold promoted
  split
  · refine .array fun item listed => ?_
    rw [List.mem_singleton.mp listed]
    exact normal
  · exact normal

/-- A lifted scalar stands under a property without a rule, or is none any more. -/
theorem lifted_lift {property : String} (ends : table.Ends property) (scalar : Json) :
    Lifted table (property, lift table property scalar) := by
  intro ruled
  cases ends with
  | stop unlinked =>
      rw [lift_of_unlinked unlinked, promoted]
      obtain ⟨rule, found⟩ := Option.isSome_iff_exists.mp ruled
      cases rule with
      | promoteToArray => rw [found]; rfl
      | wrapInObject field =>
          rw [RuleTable.wrapField?_eq_some_iff.mpr found] at unlinked
          cases unlinked
  | step linked ends => rw [lift_of_linked scalar linked ends]; rfl

/-- The property under which a scalar is wrapped may have a rule itself, which lifting
follows as far as there are links. -/
theorem isNormal_lift {property : String} (ends : table.Ends property) {scalar : Json}
    (normal : IsNormal table scalar) : IsNormal table (lift table property scalar) := by
  induction ends with
  | stop unlinked =>
      rw [lift_of_unlinked unlinked]
      exact isNormal_promoted normal
  | step linked ends inner =>
      rw [lift_of_linked scalar linked ends]
      exact isNormal_singleton (lifted_lift ends scalar) inner

theorem isNormal_settle {property : String} (ends : table.Ends property) {value : Json}
    (normal : IsNormal table value) : IsNormal table (settle table property value) := by
  cases liftable : isLiftable value with
  | true => rw [settle_of_liftable liftable]; exact isNormal_lift ends normal
  | false => rw [settle_of_collection liftable]; exact normal

theorem lifted_settle {property : String} (ends : table.Ends property) (value : Json) :
    Lifted table (property, settle table property value) := by
  cases liftable : isLiftable value with
  | true => rw [settle_of_liftable liftable]; exact lifted_lift ends value
  | false => rw [settle_of_collection liftable]; exact fun _ => liftable

/-! ## Normalizing gives normal documents -/

theorem ascending_sortMembers {members : Members} (distinct : (members.map (·.1)).Nodup) :
    Ascending (sortMembers members) :=
  ascending_iff.mpr ⟨sortMembers_sorted members,
    ((sortMembers_perm members).map _).nodup_iff.mpr distinct⟩

mutual

theorem isNormal_normalize (ends : ∀ property, table.Ends property) :
    (document : Json) → document.KeysDistinct → IsNormal table (normalize table document)
  | .null, _ => .null
  | .boolean value, _ => .boolean value
  | .number value, _ => .number value
  | .string text, _ => .string (isTidy_tidy text)
  | .array items, distinct => .array (isNormal_normalizeItems ends items distinct)
  | .object members, distinct => by
      have normalDistinct : ((members.map (normalMember table)).map (·.1)).Nodup := by
        rw [map_fst_normalMember]
        exact distinct.1
      have unsorted : ∀ {member}, member ∈ sortMembers (members.map (normalMember table)) →
          member ∈ members.map (normalMember table) :=
        (sortMembers_perm _).mem_iff.mp
      rw [normalize_object]
      refine .object (ascending_sortMembers normalDistinct) ?_ ?_
      · intro member listed
        obtain ⟨original, _, rfl⟩ := List.mem_map.mp (unsorted listed)
        exact lifted_settle (ends original.1) _
      · intro member listed
        obtain ⟨original, present, rfl⟩ := List.mem_map.mp (unsorted listed)
        exact isNormal_settle (ends original.1)
          (isNormal_normalizeMembers ends members distinct.2 original present)

theorem isNormal_normalizeItems (ends : ∀ property, table.Ends property) :
    (items : List Json) → Json.ItemKeysDistinct items →
      ∀ normal ∈ normalizeItems table items, IsNormal table normal
  | [], _ => fun _ listed => nomatch listed
  | item :: rest, distinct => List.forall_mem_cons.mpr
      ⟨isNormal_normalize ends item distinct.1, isNormal_normalizeItems ends rest distinct.2⟩

theorem isNormal_normalizeMembers (ends : ∀ property, table.Ends property) :
    (members : Members) → Json.MemberKeysDistinct members →
      ∀ member ∈ members, IsNormal table (normalize table member.2)
  | [], _ => fun _ listed => nomatch listed
  | (_, value) :: rest, distinct => List.forall_mem_cons.mpr
      ⟨isNormal_normalize ends value distinct.1, isNormal_normalizeMembers ends rest distinct.2⟩

end

/-! ## Normal documents stay -/

/-- The value of a lifted member is not lifted again. -/
theorem settle_of_lifted {member : String × Json} (lifted : Lifted table member) :
    settle table member.1 member.2 = member.2 := by
  cases liftable : isLiftable member.2 with
  | false => exact settle_of_collection liftable
  | true =>
      have unruled : table.get? member.1 = none := by
        cases found : table.get? member.1 with
        | none => rfl
        | some rule =>
            rw [lifted (by rw [found]; rfl)] at liftable
            cases liftable
      have unlinked : table.wrapField? member.1 = none := by
        rw [RuleTable.wrapField?, unruled]
      rw [settle_of_liftable liftable, lift_of_unlinked unlinked, promoted, unruled]

theorem sortMembers_of_ascending {members : Members} (ascending : Ascending members) :
    sortMembers members = members := by
  obtain ⟨sorted, distinct⟩ := ascending_iff.mp ascending
  have permutation := sortMembers_perm members
  have sortedDistinct := (permutation.map (·.1)).nodup_iff.mpr distinct
  exact eq_of_perm_of_sorted permutation sortedDistinct (sortMembers_sorted members) sorted

theorem IsNormal.normalize_eq {document : Json} (normal : IsNormal table document) :
    normalize table document = document := by
  induction normal with
  | null => rfl
  | boolean => rfl
  | number => rfl
  | string isTidy => rw [normalize, isTidy.tidy_eq]
  | array _ inner => rw [normalize_array, List.map_congr_left inner, List.map_id']
  | @object members ascending lifted _ inner =>
      have kept : members.map (normalMember table) = members := by
        refine (List.map_congr_left ?_).trans (List.map_id _)
        intro member listed
        rw [normalMember, inner member listed, settle_of_lifted (lifted member listed)]
        rfl
      rw [normalize_object, kept, sortMembers_of_ascending ascending]

/-! ## Normality and doubles -/

section Doubles

variable {change : Binary64 → Binary64}

theorem isLiftable_mapReals (value : Json) :
    isLiftable (value.mapReals change) = isLiftable value := by
  cases value <;> rfl

theorem lifted_mapReals {key : String} {value : Json} :
    Lifted table (key, value.mapReals change) ↔ Lifted table (key, value) := by
  rw [Lifted, isLiftable_mapReals, Lifted]

theorem ascending_mapMemberReals {members : Members} :
    Ascending (Json.mapMemberReals change members) ↔ Ascending members := by
  have sameKeys : (Json.mapMemberReals change members).map (·.1) = members.map (·.1) := by
    induction members with
    | nil => rfl
    | cons member rest inner => rw [Json.mapMemberReals, List.map_cons, inner, List.map_cons]
  rw [Ascending, sameKeys, Ascending]

mutual

/-- Exchanging doubles neither makes a document normal nor keeps it from being so. -/
theorem isNormal_mapReals : (document : Json) →
    (IsNormal table (document.mapReals change) ↔ IsNormal table document)
  | .null => Iff.rfl
  | .boolean _ => Iff.rfl
  | .number value => iff_of_true (.number _) (.number value)
  | .string _ => Iff.rfl
  | .array items => by
      rw [Json.mapReals, isNormal_array, isNormal_array, isNormal_mapItemReals items]
  | .object members => by
      rw [Json.mapReals, isNormal_object, isNormal_object, ascending_mapMemberReals,
        isNormal_mapMemberReals members]

theorem isNormal_mapItemReals : (items : List Json) →
    ((∀ item ∈ Json.mapItemReals change items, IsNormal table item) ↔
      ∀ item ∈ items, IsNormal table item)
  | [] => Iff.rfl
  | item :: rest => by
      rw [Json.mapItemReals, List.forall_mem_cons, List.forall_mem_cons,
        isNormal_mapReals item, isNormal_mapItemReals rest]

theorem isNormal_mapMemberReals : (members : Members) →
    ((∀ member ∈ Json.mapMemberReals change members,
        Lifted table member ∧ IsNormal table member.2) ↔
      ∀ member ∈ members, Lifted table member ∧ IsNormal table member.2)
  | [] => Iff.rfl
  | (key, value) :: rest => by
      rw [Json.mapMemberReals, List.forall_mem_cons, List.forall_mem_cons,
        lifted_mapReals, isNormal_mapReals value, isNormal_mapMemberReals rest]

end

end Doubles

/-! ## What the text tells -/

/-- Documents with one text are both normal or both not. -/
theorem isNormal_iff_of_compact_eq {left right : Json} (same : left.compact = right.compact) :
    IsNormal table left ↔ IsNormal table right := by
  have constant : Binary64.SeesText fun _ => Binary64.zero false := fun _ _ _ => rfl
  rw [← isNormal_mapReals left, Json.mapReals_eq_of_compact_eq constant same,
    isNormal_mapReals right]

/-- Under the rules derived from a schema, normalizing gives a normal document; the text
changes exactly when the document was not normal, so normalizing again changes nothing. -/
theorem normalize_to_normal_form (schema : Schema) (wrapperFields : List String)
    {document : Json} (distinct : document.KeysDistinct) :
    let table := schema.deriveRules wrapperFields
    let normal := normalize table document
    IsNormal table normal ∧
      (normal.compact = document.compact ↔ IsNormal table document) ∧
      (normalize table normal).compact = normal.compact := by
  intro table normal
  have ends : ∀ property, table.Ends property := schema.deriveRules_ends wrapperFields
  have isNormal : IsNormal table normal := isNormal_normalize ends document distinct
  refine ⟨isNormal, ?_, ?_⟩
  · constructor
    · intro same
      exact (isNormal_iff_of_compact_eq same).mp isNormal
    · intro alreadyNormal
      rw [show normal = document from alreadyNormal.normalize_eq]
  · rw [isNormal.normalize_eq]

theorem normalize_to_normal_form_on_triggers :
    let table := triggerSchema.deriveRules ["name"]
    let lone : Json := .object [("on", .string "push")]
    lone.KeysDistinct ∧ IsNormal table (normalize table lone) ∧
      (normalize table lone).compact ≠ lone.compact := by
  intro table lone
  have distinct : lone.KeysDistinct := by simp [lone, Json.KeysDistinct, Json.MemberKeysDistinct]
  have ruled : (table.get? "on").isSome := by decide +kernel
  obtain ⟨normal, sameText, _⟩ := normalize_to_normal_form triggerSchema ["name"] distinct
  refine ⟨distinct, normal, ?_⟩
  intro same
  have settled := (isNormal_object.mp (sameText.mp same)).2 _ List.mem_cons_self
  exact absurd (settled.1 ruled) (by decide)

end Canonical

end Pipewright
