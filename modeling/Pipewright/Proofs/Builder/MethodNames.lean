import Pipewright.Builder.Naming

/-!
# Keys with methods of their own

A key has a method of its own exactly if it is made of small letters, digits, `_`, `$` and
hyphens that each stand before a small letter, does not start with a digit, and has a
camel-case form that is not reserved.  This form is the method, and the method leads back to
the key.

Hyphenating undoes camel case on such keys, and camel case undoes hyphenating on every name
without a hyphen.  The second holds for all characters: hyphenating only touches ASCII
capitals, and the upper-case forms of the letters it puts behind the hyphens are these
capitals again.
-/

namespace Pipewright

namespace Naming

/-- A character that stands for itself in keys and in names. -/
def isPlain (character : Char) : Bool :=
  character.isLower || character.isDigit || character == '_' || character == '$'

/-- What keys with a method are made of: a plain character, or a hyphen with a small letter. -/
inductive KeyUnit where
  | plain (character : Char) (plain : isPlain character = true)
  | hyphenated (letter : Char) (small : letter.isLower = true)

namespace KeyUnit

/-- The unit as it stands in a key. -/
def spelling : KeyUnit → List Char
  | plain character _ => [character]
  | hyphenated letter _ => ['-', letter]

/-- The unit as it stands in a camel-case name. -/
def camel : KeyUnit → Char
  | plain character _ => character
  | hyphenated letter _ => letter.toUpper

end KeyUnit

/-- The units make up the key, there is one, and the key does not start with a digit. -/
structure Spells (units : List KeyUnit) (key : String) : Prop where
  nonempty : units ≠ []
  spelled : key.toList = units.flatMap KeyUnit.spelling
  leads : ∀ first ∈ key.toList.head?, first.isDigit = false

/-! ## ASCII letters -/

theorem exists_of_isUpper {character : Char} (upper : character.isUpper = true) :
    ∃ place < 26, character = Char.ofNat (65 + place) := by
  obtain ⟨low, high⟩ : 65 ≤ character.toNat ∧ character.toNat ≤ 90 := of_decide_eq_true upper
  refine ⟨character.toNat - 65, by omega, ?_⟩
  rw [Nat.add_sub_cancel' low, Char.ofNat_toNat]

theorem exists_of_isLower {character : Char} (lower : character.isLower = true) :
    ∃ place < 26, character = Char.ofNat (97 + place) := by
  have ⟨above, below⟩ := Bool.and_eq_true_iff.mp lower
  have low : 97 ≤ character.toNat := of_decide_eq_true above
  have high : character.toNat ≤ 122 := of_decide_eq_true below
  refine ⟨character.toNat - 97, by omega, ?_⟩
  rw [Nat.add_sub_cancel' low, Char.ofNat_toNat]

theorem isLower_toLower {character : Char} (upper : character.isUpper = true) :
    character.toLower.isLower = true := by
  obtain ⟨place, bound, rfl⟩ := exists_of_isUpper upper
  revert place
  decide

theorem toUpper_toLower {character : Char} (upper : character.isUpper = true) :
    character.toLower.toUpper = character := by
  obtain ⟨place, bound, rfl⟩ := exists_of_isUpper upper
  revert place
  decide

theorem isUpper_toUpper {character : Char} (lower : character.isLower = true) :
    character.toUpper.isUpper = true := by
  obtain ⟨place, bound, rfl⟩ := exists_of_isLower lower
  revert place
  decide

theorem toLower_toUpper {character : Char} (lower : character.isLower = true) :
    character.toUpper.toLower = character := by
  obtain ⟨place, bound, rfl⟩ := exists_of_isLower lower
  revert place
  decide

/-- The full mapping to upper case takes a small ASCII letter to its capital alone. -/
theorem upperCase_of_isLower {character : Char} (lower : character.isLower = true) :
    upperCase character = [character.toUpper] := by
  obtain ⟨place, bound, rfl⟩ := exists_of_isLower lower
  revert place
  decide

theorem isUpper_of_isPlain {character : Char} (plain : isPlain character = true) :
    character.isUpper = false := by
  simp only [isPlain, Bool.or_eq_true, beq_iff_eq] at plain
  rcases plain with ((lower | digit) | rfl) | rfl
  · obtain ⟨place, bound, rfl⟩ := exists_of_isLower lower
    revert place
    decide
  · have below : character.toNat ≤ 57 := (Char.isDigit_iff_toNat.mp digit).2
    refine decide_eq_false fun capital => ?_
    have above : 65 ≤ character.toNat := capital.1
    omega
  · rfl
  · rfl

theorem ne_hyphen_of_isLower {character : Char} (lower : character.isLower = true) :
    character ≠ '-' := by
  rintro rfl
  cases lower

/-! ## Camel case and hyphens -/

theorem camelCase_nil : camelCase [] = [] := rfl

theorem camelCase_cons {character : Char} (plain : character ≠ '-') (rest : List Char) :
    camelCase (character :: rest) = character :: camelCase rest := by
  simp only [camelCase]
  rw [List.splitOn_cons_eq_if_modifyHead, if_neg (by simpa using plain)]
  cases segments : rest.splitOn '-' with
  | nil => exact absurd segments (List.splitOn_ne_nil '-' rest)
  | cons first others => rfl

theorem camelCase_hyphen {letter : Char} (plain : letter ≠ '-') (rest : List Char) :
    camelCase ('-' :: letter :: rest) = upperCase letter ++ camelCase rest := by
  simp only [camelCase]
  rw [List.splitOn_cons_eq_if_modifyHead, if_pos (by decide),
    List.splitOn_cons_eq_if_modifyHead, if_neg (by simpa using plain)]
  cases segments : rest.splitOn '-' with
  | nil => exact absurd segments (List.splitOn_ne_nil '-' rest)
  | cons first others => exact List.append_assoc ..

theorem hyphenate_cons (character : Char) (rest : List Char) :
    hyphenate (character :: rest) =
      (if character.isUpper then ['-', character.toLower] else [character]) ++ hyphenate rest :=
  List.flatMap_cons

/-- Camel case undoes hyphenating on a name without hyphens. -/
theorem camelCase_hyphenate {name : List Char} (plain : '-' ∉ name) :
    camelCase (hyphenate name) = name := by
  induction name with
  | nil => rfl
  | cons character rest inner =>
      obtain ⟨notHyphen, restPlain⟩ := not_or.mp (mt List.mem_cons.mpr plain)
      rw [hyphenate_cons]
      by_cases upper : character.isUpper = true
      · have small := isLower_toLower upper
        rw [if_pos upper, List.cons_append, List.singleton_append,
          camelCase_hyphen (ne_hyphen_of_isLower small), upperCase_of_isLower small,
          toUpper_toLower upper, inner restPlain, List.singleton_append]
      · rw [if_neg upper, List.singleton_append, camelCase_cons (Ne.symm notHyphen),
          inner restPlain]

/-- Hyphenating the camel-case form of some units spells them. -/
theorem hyphenate_camel (units : List KeyUnit) :
    hyphenate (units.map KeyUnit.camel) = units.flatMap KeyUnit.spelling := by
  induction units with
  | nil => rfl
  | cons unit rest inner =>
      rw [List.map_cons, hyphenate_cons, inner, List.flatMap_cons]
      congr 1
      cases unit with
      | plain character plain =>
          exact if_neg (by rw [KeyUnit.camel, isUpper_of_isPlain plain]; decide)
      | hyphenated letter small =>
          rw [KeyUnit.camel, if_pos (isUpper_toUpper small), toLower_toUpper small]
          rfl

/-! ## Identifiers -/

theorem continuesIdentifier_iff {character : Char} :
    continuesIdentifier character = true ↔
      character.isUpper = true ∨ isPlain character = true := by
  have alphanumeric : character.isAlphanum =
      ((character.isUpper || character.isLower) || character.isDigit) := rfl
  simp only [continuesIdentifier, isPlain, alphanumeric, Bool.or_eq_true, or_assoc]

theorem startsIdentifier_iff {character : Char} :
    startsIdentifier character = true ↔
      continuesIdentifier character = true ∧ character.isDigit = false := by
  have letterNotDigit : character.isAlpha = true → character.isDigit = false := by
    intro alpha
    rcases Bool.or_eq_true_iff.mp alpha with upper | lower
    · obtain ⟨place, bound, rfl⟩ := exists_of_isUpper upper
      revert place
      decide
    · obtain ⟨place, bound, rfl⟩ := exists_of_isLower lower
      revert place
      decide
  simp only [startsIdentifier, continuesIdentifier, Char.isAlphanum, Bool.or_eq_true,
    beq_iff_eq]
  constructor
  · rintro ((alpha | rfl) | rfl)
    · exact ⟨.inl (.inl (.inl alpha)), letterNotDigit alpha⟩
    · exact ⟨.inl (.inr rfl), rfl⟩
    · exact ⟨.inr rfl, rfl⟩
  · rintro ⟨((alpha | digit) | underscore) | dollar, notDigit⟩
    · exact .inl (.inl alpha)
    · rw [notDigit] at digit
      cases digit
    · exact .inl (.inr underscore)
    · exact .inr dollar

theorem isIdentifier_iff {name : List Char} :
    isIdentifier name = true ↔ name ≠ [] ∧
      (∀ letter ∈ name, continuesIdentifier letter = true) ∧
      ∀ first ∈ name.head?, first.isDigit = false := by
  cases name with
  | nil => simp [isIdentifier]
  | cons first rest =>
      simp only [isIdentifier, Bool.and_eq_true, startsIdentifier_iff, List.all_eq_true,
        List.forall_mem_cons, List.head?_cons, Option.mem_some_iff, forall_eq', ne_eq,
        reduceCtorEq, not_false_eq_true, true_and]
      rw [and_right_comm]

theorem hyphen_not_mem_of_isIdentifier {name : List Char} (identifier : isIdentifier name = true) :
    '-' ∉ name := by
  intro hyphen
  have continues := (isIdentifier_iff.mp identifier).2.1 '-' hyphen
  cases continues

theorem continuesIdentifier_camel (unit : KeyUnit) : continuesIdentifier unit.camel = true := by
  cases unit with
  | plain character plain => exact continuesIdentifier_iff.mpr (.inr plain)
  | hyphenated letter small => exact continuesIdentifier_iff.mpr (.inl (isUpper_toUpper small))

/-- The characters of an identifier are the camel-case forms of units. -/
theorem exists_units {name : List Char}
    (letters : ∀ letter ∈ name, continuesIdentifier letter = true) :
    ∃ units : List KeyUnit, name = units.map KeyUnit.camel := by
  induction name with
  | nil => exact ⟨[], rfl⟩
  | cons character rest inner =>
      obtain ⟨continues, others⟩ := List.forall_mem_cons.mp letters
      obtain ⟨units, rfl⟩ := inner others
      rcases continuesIdentifier_iff.mp continues with upper | plain
      · refine ⟨.hyphenated character.toLower (isLower_toLower upper) :: units, ?_⟩
        rw [List.map_cons, KeyUnit.camel, toUpper_toLower upper]
      · exact ⟨.plain character plain :: units, rfl⟩

/-- A name and the key of its units start with a digit alike. -/
theorem head?_isDigit_iff (units : List KeyUnit) :
    (∀ first ∈ (units.flatMap KeyUnit.spelling).head?, first.isDigit = false) ↔
      ∀ first ∈ (units.map KeyUnit.camel).head?, first.isDigit = false := by
  cases units with
  | nil => rfl
  | cons unit rest =>
      cases unit with
      | plain character plain => rfl
      | hyphenated letter small =>
          have capital : letter.toUpper.isDigit = false := by
            obtain ⟨place, bound, rfl⟩ := exists_of_isLower small
            revert place
            decide
          constructor
          · rintro - _ ⟨⟩
            exact capital
          · rintro - _ ⟨⟩
            rfl

theorem isIdentifier_camel_iff (units : List KeyUnit) :
    isIdentifier (units.map KeyUnit.camel) = true ↔
      units ≠ [] ∧ ∀ first ∈ (units.flatMap KeyUnit.spelling).head?, first.isDigit = false := by
  have letters : ∀ letter ∈ units.map KeyUnit.camel, continuesIdentifier letter = true := by
    intro letter mem
    obtain ⟨unit, -, rfl⟩ := List.mem_map.mp mem
    exact continuesIdentifier_camel unit
  rw [isIdentifier_iff, head?_isDigit_iff]
  simp only [ne_eq, List.map_eq_nil_iff]
  exact and_congr_right fun _ => and_iff_right letters

end Naming

open Naming

/-- Camel case undoes hyphenating on a name without hyphens. -/
theorem methodName_documentKey {name : String} (plain : '-' ∉ name.toList) :
    methodName (documentKey name) = name := by
  rw [methodName, documentKey, String.toList_ofList, camelCase_hyphenate plain,
    String.ofList_toList]

/-- A key has the methods that are identifiers, not reserved and lead back to it. -/
theorem methodFor?_eq_some_iff {key method : String} :
    methodFor? key = some method ↔
      isIdentifier method.toList = true ∧ method ∉ reserved ∧ documentKey method = key := by
  unfold methodFor?
  simp only [Option.ite_none_right_eq_some, Option.some.injEq, Bool.and_eq_true,
    Bool.not_eq_true', List.contains_eq_mem, decide_eq_false_iff_not, beq_iff_eq]
  constructor
  · rintro ⟨⟨⟨identifier, free⟩, back⟩, rfl⟩
    exact ⟨identifier, free, back⟩
  · rintro ⟨identifier, free, rfl⟩
    have same := methodName_documentKey (hyphen_not_mem_of_isIdentifier identifier)
    rw [same]
    exact ⟨⟨⟨identifier, free⟩, rfl⟩, rfl⟩

/-- The names that the units of a key give are identifiers, and hyphenating them gives the
key. -/
theorem exists_spells_iff {key method : String} :
    (∃ units : List KeyUnit, Spells units key ∧
      method = String.ofList (units.map KeyUnit.camel)) ↔
      isIdentifier method.toList = true ∧ documentKey method = key := by
  constructor
  · rintro ⟨units, spells, rfl⟩
    rw [documentKey, String.toList_ofList, isIdentifier_camel_iff, hyphenate_camel,
      ← spells.spelled, String.ofList_toList]
    exact ⟨⟨spells.nonempty, spells.leads⟩, rfl⟩
  · rintro ⟨identifier, rfl⟩
    obtain ⟨units, camel⟩ := exists_units (isIdentifier_iff.mp identifier).2.1
    have spelled : (documentKey method).toList = units.flatMap KeyUnit.spelling := by
      rw [documentKey, String.toList_ofList, camel, hyphenate_camel]
    rw [camel, isIdentifier_camel_iff, ← spelled] at identifier
    refine ⟨units, ⟨identifier.1, spelled, identifier.2⟩, ?_⟩
    rw [← camel, String.ofList_toList]

/-- A key has a method of its own exactly if it is spelled by units, does not start with a
digit and has a camel-case form that is not reserved.  The method is this form, it leads back
to the key, and no other key has it.  Names without hyphens come back from their document
keys. -/
theorem method_names_exact (key : String) :
    (∀ method, methodFor? key = some method ↔
      ∃ units : List KeyUnit, Spells units key ∧
        method = String.ofList (units.map KeyUnit.camel) ∧ method ∉ reserved) ∧
    (∀ method, methodFor? key = some method →
      method = methodName key ∧ documentKey method = key ∧
        ∀ other, methodFor? other = some method → other = key) ∧
    ∀ name : String, '-' ∉ name.toList → methodName (documentKey name) = name := by
  refine ⟨?_, ?_, fun name plain => methodName_documentKey plain⟩
  · intro method
    rw [methodFor?_eq_some_iff, and_left_comm, ← exists_spells_iff, and_comm]
    constructor
    · rintro ⟨⟨units, spells, camel⟩, free⟩
      exact ⟨units, spells, camel, free⟩
    · rintro ⟨units, spells, camel, free⟩
      exact ⟨⟨units, spells, camel⟩, free⟩
  · intro method found
    obtain ⟨identifier, -, back⟩ := methodFor?_eq_some_iff.mp found
    refine ⟨?_, back, fun other found' => ?_⟩
    · rw [← back, methodName_documentKey (hyphen_not_mem_of_isIdentifier identifier)]
    · rw [← back, (methodFor?_eq_some_iff.mp found').2.2]

theorem method_names_exact_on_runsOn :
    methodFor? "runs-on" = some "runsOn" ∧ documentKey "runsOn" = "runs-on" ∧
      methodName (documentKey "ßA") = "ßA" := by
  have exact_ := method_names_exact "runs-on"
  have spells : Spells
      [.plain 'r' rfl, .plain 'u' rfl, .plain 'n' rfl, .plain 's' rfl, .hyphenated 'o' rfl,
        .plain 'n' rfl] "runs-on" :=
    ⟨nofun, by decide, by rintro _ ⟨⟩; rfl⟩
  have found : methodFor? "runs-on" = some "runsOn" :=
    (exact_.1 "runsOn").mpr ⟨_, spells, by decide, by decide⟩
  exact ⟨found, (exact_.2.1 _ found).2.1, exact_.2.2 "ßA" (by decide)⟩

end Pipewright
