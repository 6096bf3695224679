import Pipewright.Walk.Observer

/-!
# Evaluating pointers

The tokens of the pointer along a path are the keys and positions on the path, whatever
characters the keys have.  Where the path leads to a value of a document, evaluating the
pointer gives this value, and no other path of the document has the same pointer.

An array position is named by its decimal numeral.  Positions of `UInt64.size` and more have
numerals too, which `Json.pointer?` does not look up.
-/

namespace Pipewright

namespace Pointer

/-! ## Tokens -/

theorem escapeChars_cons (character : Char) (token : List Char) :
    escapeChars (character :: token) =
      (if character = '~' then ['~', '0'] else if character = '/' then ['~', '1']
        else [character]) ++ escapeChars token :=
  List.flatMap_cons

theorem unescapeMark_plain {mark replacement character : Char} (plain : character ≠ '~')
    (token : List Char) :
    unescapeMark mark replacement (character :: token) =
      character :: unescapeMark mark replacement token := by
  rw [unescapeMark]
  intro next rest tilde _
  exact plain tilde

theorem unescapeMark_mark {mark replacement : Char} (token : List Char) :
    unescapeMark mark replacement ('~' :: mark :: token) =
      replacement :: unescapeMark mark replacement token := by
  rw [unescapeMark, if_pos rfl]

theorem unescapeMark_other {mark replacement other : Char} (different : other ≠ mark)
    (plain : other ≠ '~') (token : List Char) :
    unescapeMark mark replacement ('~' :: other :: token) =
      '~' :: other :: unescapeMark mark replacement token := by
  rw [unescapeMark, if_neg different, unescapeMark_plain plain]

/-- Tildes are written `~0`; slashes stay. -/
def escapeTildes (token : List Char) : List Char :=
  token.flatMap fun character => if character = '~' then ['~', '0'] else [character]

theorem unescapeMark_escapeChars (token : List Char) :
    unescapeMark '1' '/' (escapeChars token) = escapeTildes token := by
  induction token with
  | nil => rfl
  | cons character token inner =>
      rw [escapeChars_cons, escapeTildes, List.flatMap_cons, ← escapeTildes]
      split
      · simp only [List.cons_append, List.nil_append]
        rw [unescapeMark_other (by decide) (by decide), inner]
      · next notTilde =>
          split
          · next slash =>
              simp only [List.cons_append, List.nil_append]
              rw [unescapeMark_mark, inner, slash]
          · rw [List.singleton_append, unescapeMark_plain notTilde, inner, List.singleton_append]

theorem unescapeMark_escapeTildes (token : List Char) :
    unescapeMark '0' '~' (escapeTildes token) = token := by
  induction token with
  | nil => rfl
  | cons character token inner =>
      rw [escapeTildes, List.flatMap_cons, ← escapeTildes]
      split
      · next tilde =>
          simp only [List.cons_append, List.nil_append]
          rw [unescapeMark_mark, inner, tilde]
      · next notTilde => rw [List.singleton_append, unescapeMark_plain notTilde, inner]

/-- Every token is read as it was written. -/
theorem unescape_escapeChars (token : List Char) : unescape (escapeChars token) = token := by
  rw [unescape, unescapeMark_escapeChars, unescapeMark_escapeTildes]

/-- A character of an escaped token belongs to an escape, or to the token. -/
theorem mem_escapeChars {token : List Char} {character : Char}
    (written : character ∈ escapeChars token) :
    character ∈ ['~', '0', '1'] ∨ character ∈ token ∧ character ≠ '/' := by
  obtain ⟨original, listed, among⟩ := List.mem_flatMap.mp written
  split at among
  · exact .inl (List.mem_append_left ['1'] among)
  · split at among
    · rcases List.mem_cons.mp among with rfl | one
      · exact .inl List.mem_cons_self
      · exact .inl (List.mem_append_right ['~', '0'] one)
    · next notSlash =>
        cases List.mem_singleton.mp among
        exact .inr ⟨listed, notSlash⟩

theorem slash_not_mem_escapeChars (token : List Char) : '/' ∉ escapeChars token := by
  intro slash
  rcases mem_escapeChars slash with escaped | ⟨-, notSlash⟩
  · exact absurd escaped (by decide)
  · exact notSlash rfl

theorem escapeChars_of_plain {token : List Char}
    (plain : ∀ character ∈ token, character ≠ '~' ∧ character ≠ '/') :
    escapeChars token = token := by
  induction token with
  | nil => rfl
  | cons character token inner =>
      obtain ⟨⟨notTilde, notSlash⟩, others⟩ := List.forall_mem_cons.mp plain
      rw [escapeChars_cons, if_neg notTilde, if_neg notSlash, inner others]
      rfl

/-- The characters of a decimal numeral. -/
theorem toList_numeral (position : Nat) :
    (toString position).toList = Nat.toDigits 10 position := by
  rw [Nat.toString_eq_repr, Nat.toList_repr]

theorem isDigit_of_mem_numeral {position : Nat} {character : Char}
    (listed : character ∈ Nat.toDigits 10 position) : character.isDigit = true :=
  Nat.isDigit_of_mem_toDigits (by decide) (by decide) listed

theorem escape_position (position : Nat) : escape (toString position) = toString position := by
  have plain : ∀ character ∈ (toString position).toList, character ≠ '~' ∧ character ≠ '/' := by
    intro character listed
    have digit := isDigit_of_mem_numeral (toList_numeral position ▸ listed)
    constructor <;> rintro rfl <;> exact absurd digit (by decide)
  rw [escape, escapeChars_of_plain plain, String.ofList_toList]

end Pointer

/-- What a step is called: its key, or the numeral of its position. -/
def Step.name : Step → String
  | .key name => name
  | .index position => toString position

theorem Step.token_eq (step : Step) : step.token = Pointer.escape step.name := by
  cases step with
  | key name => rfl
  | index position => exact (Pointer.escape_position position).symm

/-- The pointer along a path. -/
def pointerTo (path : List Step) : String :=
  String.join (path.map fun step => "/" ++ step.token)

/-- Joining with a separator, with one in front as well. -/
theorem flatMap_cons_eq_intercalate {α : Type} (separator : α) {tokens : List (List α)}
    (someToken : tokens ≠ []) :
    (tokens.flatMap fun token => separator :: token) =
      separator :: [separator].intercalate tokens := by
  induction tokens with
  | nil => exact absurd rfl someToken
  | cons token rest inner =>
      cases rest with
      | nil => simp [List.intercalate]
      | cons next rest =>
          rw [List.intercalate_cons_cons, List.append_assoc, List.singleton_append,
            ← inner (List.cons_ne_nil next rest), @List.flatMap_cons _ _ token]
          rfl

theorem toList_pointerTo (path : List Step) :
    (pointerTo path).toList =
      (path.map fun step => Pointer.escapeChars step.name.toList).flatMap ('/' :: ·) := by
  rw [pointerTo, String.toList_join, List.flatMap_map, List.flatMap_map]
  congr 1
  funext step
  rw [Step.token_eq, Pointer.escape, String.toList_append, String.toList_ofList,
    String.toList_ofList, List.singleton_append]

/-- The tokens of the pointer along a path are the names of its steps. -/
theorem tokens?_pointerTo (path : List Step) :
    Pointer.tokens? (pointerTo path) = some (path.map Step.name) := by
  have written := toList_pointerTo path
  cases path with
  | nil => rfl
  | cons step path =>
      rw [flatMap_cons_eq_intercalate '/' (by simp)] at written
      rw [Pointer.tokens?, written]
      simp only
      rw [List.splitOn_intercalate, List.map_map]
      · refine congrArg some (List.map_congr_left ?_)
        intro step _
        exact (congrArg String.ofList (Pointer.unescape_escapeChars _)).trans String.ofList_toList
      · intro token listed
        obtain ⟨step, _, rfl⟩ := List.mem_map.mp listed
        exact Pointer.slash_not_mem_escapeChars _
      · simp

/-! ## Values at paths -/

namespace Json

/-- The value of the member or the element that a step names. -/
def child? (document : Json) (step : Step) : Option Json :=
  match document, step with
  | .object members, .key name => members.lookup name
  | .array items, .index position => items[position]?
  | _, _ => none

/-- The value at the end of a path. -/
def valueAt? (document : Json) : List Step → Option Json
  | [] => some document
  | step :: path => (document.child? step).bind (valueAt? · path)

theorem valueAt?_append (document : Json) (front back : List Step) :
    document.valueAt? (front ++ back) = (document.valueAt? front).bind (·.valueAt? back) := by
  induction front generalizing document with
  | nil => rfl
  | cons step front inner =>
      rw [List.cons_append, valueAt?, valueAt?]
      cases document.child? step with
      | none => rfl
      | some value => exact inner value

end Json

/-! ## Evaluation -/

namespace Pointer

/-- The position that a token names: the one that has it as its decimal numeral. -/
def position? (token : String) : Option Nat :=
  let position := Nat.ofDigitChars 10 token.toList 0
  if toString position = token then some position else none

theorem position?_toString (position : Nat) : position? (toString position) = some position := by
  have reads : Nat.ofDigitChars 10 (toString position).toList 0 = position := by
    rw [toList_numeral]
    exact Nat.ofDigitChars_toDigits (by decide) (by decide)
  rw [position?]
  simp only [reads, if_true]

/-- The member or the element that a token selects. -/
def select? (document : Json) (token : String) : Option Json :=
  match document with
  | .object members => members.lookup token
  | .array items => (position? token).bind fun position => items[position]?
  | _ => none

theorem select?_of_child? {document value : Json} {step : Step}
    (found : document.child? step = some value) : select? document step.name = some value := by
  unfold Json.child? at found
  split at found
  · exact found
  · next items position =>
      rw [Step.name, select?, position?_toString]
      exact found
  · cases found

/-- Numerals of positive numbers do not start with a zero. -/
theorem head?_toDigits_ne {value : Nat} (positive : 0 < value) :
    (Nat.toDigits 10 value).head? ≠ some '0' := by
  induction value using Nat.strongRecOn with
  | ind value inner =>
      rcases Nat.lt_or_ge value 10 with small | large
      · have notZero : ∀ digit < 10, 0 < digit → Nat.digitChar digit ≠ '0' := by decide
        rw [Nat.toDigits_of_lt_base small, List.head?_cons]
        exact fun same => notZero value small positive (Option.some_inj.mp same)
      · have front := inner (value / 10) (by omega) (by omega)
        rw [Nat.toDigits_of_base_le (by decide) large,
          List.head?_append, Option.or_of_isSome (by simp [Nat.toDigits_ne_nil])]
        exact front

/-- Positions that fit into 64 bits are looked up. -/
theorem index?_toString {position : Nat} (fits : position < UInt64.size) :
    index? (toString position) = some position := by
  have digits : (Nat.toDigits 10 position).all Char.isDigit = true :=
    List.all_eq_true.mpr fun _ => isDigit_of_mem_numeral
  have noLeadingZero : ((Nat.toDigits 10 position).head? == some '0' &&
      (Nat.toDigits 10 position).length != 1) = false := by
    rcases Nat.eq_zero_or_pos position with rfl | positive
    · rfl
    · rw [beq_false_of_ne (head?_toDigits_ne positive), Bool.false_and]
  have reads : (Nat.toDigits 10 position).foldl
      (fun number digit => 10 * number + (digit.toNat - 48)) 0 = position :=
    Nat.ofDigitChars_toDigits (by decide) (by decide)
  have nonempty : (Nat.toDigits 10 position).isEmpty = false :=
    List.isEmpty_eq_false_iff.mpr Nat.toDigits_ne_nil
  rw [index?, toList_numeral]
  simp only [nonempty, noLeadingZero, digits, reads, Bool.not_true, Bool.or_self,
    Bool.false_eq_true, if_false]
  exact if_pos fits

theorem step?_of_child? {document value : Json} {step : Step}
    (fits : ∀ position, step = .index position → position < UInt64.size)
    (found : document.child? step = some value) : step? document step.name = some value := by
  unfold Json.child? at found
  split at found
  · exact found
  · next items position =>
      rw [Step.name, step?, index?_toString (fits position rfl)]
      exact found
  · cases found

end Pointer

namespace Json

/-- The part of a document that a pointer selects, by the rules of RFC 6901. -/
def evaluate? (document : Json) (pointer : String) : Option Json :=
  (Pointer.tokens? pointer).bind fun tokens => tokens.foldlM Pointer.select? document

theorem evaluate?_pointerTo {document value : Json} {path : List Step}
    (found : document.valueAt? path = some value) :
    document.evaluate? (pointerTo path) = some value := by
  rw [evaluate?, tokens?_pointerTo, Option.bind_some]
  induction path generalizing document with
  | nil => exact found
  | cons step path inner =>
      obtain ⟨next, stepped, further⟩ := Option.bind_eq_some_iff.mp found
      rw [List.map_cons, List.foldlM_cons, Pointer.select?_of_child? stepped]
      exact inner further

theorem pointer?_pointerTo {document value : Json} {path : List Step}
    (fits : ∀ position, .index position ∈ path → position < UInt64.size)
    (found : document.valueAt? path = some value) :
    document.pointer? (pointerTo path) = some value := by
  rw [pointer?, tokens?_pointerTo, Option.bind_some]
  induction path generalizing document with
  | nil => exact found
  | cons step path inner =>
      obtain ⟨next, stepped, further⟩ := Option.bind_eq_some_iff.mp found
      have fitsFirst : ∀ position, step = .index position → position < UInt64.size :=
        fun position same => fits position (same ▸ List.mem_cons_self)
      have fitsRest : ∀ position, .index position ∈ path → position < UInt64.size :=
        fun position later => fits position (List.mem_cons_of_mem _ later)
      rw [List.map_cons, List.foldlM_cons, Pointer.step?_of_child? fitsFirst stepped]
      exact inner fitsRest further

/-! ## Different paths have different pointers -/

/-- Below one value, steps with one name are one step. -/
theorem eq_of_name_eq {document left right : Json} {step other : Step}
    (found : document.child? step = some left) (found' : document.child? other = some right)
    (sameName : step.name = other.name) : step = other := by
  cases document with
  | object members =>
      cases step with
      | index => cases found
      | key name =>
          cases other with
          | index => cases found'
          | key name' => exact congrArg Step.key sameName
  | array items =>
      cases step with
      | key => cases found
      | index position =>
          cases other with
          | key => cases found'
          | index position' =>
              have same : Pointer.position? (toString position) =
                  Pointer.position? (toString position') := congrArg _ sameName
              rw [Pointer.position?_toString, Pointer.position?_toString] at same
              exact congrArg Step.index (Option.some_inj.mp same)
  | null | boolean | number | string => cases found

theorem eq_of_names_eq {document left right : Json} {path other : List Step}
    (found : document.valueAt? path = some left) (found' : document.valueAt? other = some right)
    (sameNames : path.map Step.name = other.map Step.name) : path = other := by
  induction path generalizing document other with
  | nil => exact (List.map_eq_nil_iff.mp sameNames.symm).symm
  | cons step path inner =>
      cases other with
      | nil => cases sameNames
      | cons step' other =>
          obtain ⟨sameName, sameRest⟩ := List.cons.inj sameNames
          obtain ⟨next, stepped, further⟩ := Option.bind_eq_some_iff.mp found
          obtain ⟨next', stepped', further'⟩ := Option.bind_eq_some_iff.mp found'
          have same := eq_of_name_eq stepped stepped' sameName
          cases same
          rw [stepped] at stepped'
          cases stepped'
          rw [inner further further' sameRest]

/-- Paths to values of one document with one pointer are one path. -/
theorem eq_of_pointerTo_eq {document left right : Json} {path other : List Step}
    (found : document.valueAt? path = some left) (found' : document.valueAt? other = some right)
    (same : pointerTo path = pointerTo other) : path = other := by
  have sameNames : some (path.map Step.name) = some (other.map Step.name) := by
    rw [← tokens?_pointerTo, same, tokens?_pointerTo]
  exact eq_of_names_eq found found' (Option.some_inj.mp sameNames)

end Json

end Pipewright
