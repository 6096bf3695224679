import Pipewright.Json.Reader
import Pipewright.Json.Text

/-!
# The doubles of a document

The doubles that stand in a document, and the document with other doubles in their
places.  What the text of a double reads back as depends on the text alone, so documents
with one text become equal when every double is read back.
-/

namespace Pipewright

/-- The number with its double exchanged. -/
def Number.mapReal (change : Binary64 → Binary64) : Number → Number
  | .integer value => .integer value
  | .real value => .real (change value)

namespace Json

mutual

/-- The doubles that stand in a document. -/
def reals : Json → List Binary64
  | .number (.real value) => [value]
  | .number (.integer _) => []
  | .array items => itemReals items
  | .object members => memberReals members
  | .null => []
  | .boolean _ => []
  | .string _ => []

/-- The doubles in the elements of an array. -/
def itemReals : List Json → List Binary64
  | [] => []
  | item :: rest => item.reals ++ itemReals rest

/-- The doubles in the values of an object. -/
def memberReals : Members → List Binary64
  | [] => []
  | (_, value) :: rest => value.reals ++ memberReals rest

end

mutual

/-- The document with its doubles exchanged. -/
def mapReals (change : Binary64 → Binary64) : Json → Json
  | .number value => .number (value.mapReal change)
  | .array items => .array (mapItemReals change items)
  | .object members => .object (mapMemberReals change members)
  | .null => .null
  | .boolean value => .boolean value
  | .string text => .string text

/-- The elements of an array with their doubles exchanged. -/
def mapItemReals (change : Binary64 → Binary64) : List Json → List Json
  | [] => []
  | item :: rest => item.mapReals change :: mapItemReals change rest

/-- The members of an object with their doubles exchanged. -/
def mapMemberReals (change : Binary64 → Binary64) : Members → Members
  | [] => []
  | (key, value) :: rest => (key, value.mapReals change) :: mapMemberReals change rest

end

variable {number : Binary64}

theorem mem_memberReals {members : Members} :
    number ∈ memberReals members ↔ ∃ member ∈ members, number ∈ member.2.reals := by
  induction members with
  | nil => simp [memberReals]
  | cons member rest inner => simp [memberReals, inner]

section Fixed

variable {change : Binary64 → Binary64}

mutual

/-- Nothing happens where no double changes. -/
theorem mapReals_eq_self : (document : Json) →
    (∀ number ∈ document.reals, change number = number) → document.mapReals change = document
  | .null, _ => rfl
  | .boolean _, _ => rfl
  | .string _, _ => rfl
  | .number (.integer _), _ => rfl
  | .number (.real value), fixed => by
      rw [mapReals, Number.mapReal, fixed value (by simp [reals])]
  | .array items, fixed => by
      rw [mapReals, mapItemReals_eq_self items fixed]
  | .object members, fixed => by
      rw [mapReals, mapMemberReals_eq_self members fixed]

theorem mapItemReals_eq_self : (items : List Json) →
    (∀ number ∈ itemReals items, change number = number) → mapItemReals change items = items
  | [], _ => rfl
  | item :: rest, fixed => by
      rw [itemReals] at fixed
      obtain ⟨first, later⟩ := List.forall_mem_append.mp fixed
      rw [mapItemReals, mapReals_eq_self item first, mapItemReals_eq_self rest later]

theorem mapMemberReals_eq_self : (members : Members) →
    (∀ number ∈ memberReals members, change number = number) →
      mapMemberReals change members = members
  | [], _ => rfl
  | (_, value) :: rest, fixed => by
      rw [memberReals] at fixed
      obtain ⟨first, later⟩ := List.forall_mem_append.mp fixed
      rw [mapMemberReals, mapReals_eq_self value first, mapMemberReals_eq_self rest later]

end

end Fixed

end Json

namespace Binary64

/-- A change that treats doubles with one text alike. -/
def SeesText (change : Binary64 → Binary64) : Prop :=
  ∀ left right, (Number.real left).chars = (Number.real right).chars →
    change left = change right

/-- The text of a double is read as this double. -/
def ReadsBack (number : Binary64) : Prop :=
  Json.read (String.ofList (Number.real number).chars) = .ok (.number (.real number))

/-- The double that the text of a double is read as, or zero if it is read as none. -/
def reread (number : Binary64) : Binary64 :=
  match Json.read (String.ofList (Number.real number).chars) with
  | .ok (.number (.real value)) => value
  | _ => zero false

theorem ReadsBack.reread_eq {number : Binary64} (readsBack : number.ReadsBack) :
    number.reread = number := by
  rw [reread, readsBack]

theorem seesText_reread : SeesText reread := by
  intro left right same
  rw [reread, reread, same]

end Binary64

end Pipewright
