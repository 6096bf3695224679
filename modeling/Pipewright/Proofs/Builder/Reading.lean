import Pipewright.Proofs.Builder.MethodNames
import Pipewright.Proofs.Builder.Templates
import Pipewright.Proofs.Json.Keys

/-!
# Reading layouts back

The source of a layout is read back as the document that the builder builds from it.
A chain of calls puts one member after the other, so its keys have to be distinct.
-/

namespace Pipewright

namespace Replay

open Json Layout

variable {reader : LiteralReader} {document content : Json} {text text' written rest : List Char}
  {key : String} {done : Members} {level : Nat}

/-! ## Calls -/

theorem calls_congr (same : skip text = skip text') :
    calls reader done text = calls reader done text' := by
  rw [calls, calls, startsWith, startsWith, same, eat?_congr same]

theorem isBlank_of_continuesIdentifier {letter : Char}
    (continues : Naming.continuesIdentifier letter = true) : isBlank letter = false := by
  simp only [Naming.continuesIdentifier, Bool.or_eq_true, beq_iff_eq] at continues
  rcases continues with (letters | rfl) | rfl
  · have isWord : isWordChar letter = true := by simp [isWordChar, letters]
    exact (plain_of_isWordChar isWord).1
  · decide
  · decide

/-- The method of a key is an identifier, is not reserved and leads back to the key. -/
theorem method_spec {method : String} (found : methodFor? key = some method) :
    method.toList ≠ [] ∧
      (∀ letter ∈ method.toList, Naming.continuesIdentifier letter = true) ∧
      method ∉ Naming.reserved ∧ documentKey method = key := by
  obtain ⟨identifier, free, back⟩ := methodFor?_eq_some_iff.mp found
  obtain ⟨nonempty, letters, -⟩ := Naming.isIdentifier_iff.mp identifier
  exact ⟨nonempty, letters, free, back⟩

theorem identifier_method {method : List Char} (nonempty : method ≠ [])
    (letters : ∀ letter ∈ method, Naming.continuesIdentifier letter = true)
    (rest : List Char) : identifier (method ++ '(' :: rest) = (method, '(' :: rest) := by
  have stays : skip (method ++ '(' :: rest) = method ++ '(' :: rest := by
    cases method with
    | nil => exact absurd rfl nonempty
    | cons first more =>
        have plain := isBlank_of_continuesIdentifier (letters first (List.mem_cons_self ..))
        exact skip_of_head plain _
  rw [identifier, stays, List.span_eq_takeWhile_dropWhile, List.takeWhile_append_of_pos letters,
    List.dropWhile_append_of_pos letters, List.takeWhile_cons_of_neg (by decide),
    List.dropWhile_cons_of_neg (by decide), List.append_nil]

/-- A call of a method named otherwise does not build. -/
theorem startsWith_build {method : List Char}
    (letters : ∀ letter ∈ method, Naming.continuesIdentifier letter = true)
    (other : method ≠ "build".toList) (rest : List Char) :
    startsWith ".build(" ('.' :: (method ++ '(' :: rest)) = false := by
  rw [startsWith, skip_of_head (by decide), Bool.eq_false_iff]
  intro comes
  obtain ⟨behind, same⟩ := List.isPrefixOf_iff_prefix.mp comes
  have names : "build".toList ++ '(' :: behind = method ++ '(' :: rest := by
    injection same with _ tail
  have build : ∀ letter ∈ "build".toList, Naming.continuesIdentifier letter = true :=
    List.all_eq_true.mp rfl
  -- both names end where their parenthesis stands
  have taken := congrArg (List.takeWhile Naming.continuesIdentifier) names
  rw [List.takeWhile_append_of_pos build, List.takeWhile_append_of_pos letters,
    List.takeWhile_cons_of_neg (by decide), List.takeWhile_cons_of_neg (by decide),
    List.append_nil, List.append_nil] at taken
  exact other taken.symm

/-- What is read of a call once its method is known. -/
theorem calls_method {method : List Char} (nonempty : method ≠ [])
    (letters : ∀ letter ∈ method, Naming.continuesIdentifier letter = true)
    (other : method ≠ "build".toList) (keyed : callKey reader (String.ofList method) text =
      some (key, text')) (keyShorter : text'.length ≤ text.length)
    (read : value reader text' = some (content, ')' :: rest))
    (shorter : rest.length ≤ text'.length) :
    calls reader done ('.' :: (method ++ '(' :: text)) =
      calls reader (putEntry done key content) rest := by
  have dot : eat? "." ('.' :: (method ++ '(' :: text)) = some (method ++ '(' :: text) := rfl
  have open_ : eat? "(" ('(' :: text) = some text := rfl
  have close : eat? ")" (')' :: rest) = some rest := rfl
  have argument : text'.length < (skip ('.' :: (method ++ '(' :: text))).length := by
    rw [skip_of_head (by decide), List.length_cons, List.length_append, List.length_cons]
    omega
  rw [calls, startsWith_build letters other, dot]
  simp only [Bool.false_eq_true, if_false, identifier_method nonempty letters, open_, keyed,
    advance?_of_lt argument, read, close, advance?_of_lt (Nat.lt_of_le_of_lt shorter argument),
    Option.bind_eq_bind, Option.bind_some]

/-- A call puts its value under its key. -/
theorem calls_callStart (readsBack : reader.ReadsBack document)
    (reads : Reads reader written content) (rest : List Char) :
    calls reader done (Emitter.callStart key ++ (written ++ ')' :: rest)) =
      calls reader (putEntry done key content) rest := by
  have read := reads.value (.parenthesis rest)
  have shorter : rest.length ≤ (written ++ ')' :: rest).length := by
    rw [List.length_append, List.length_cons]
    omega
  unfold Emitter.callStart
  cases found : methodFor? key with
  | some method =>
      obtain ⟨nonempty, letters, free, back⟩ := method_spec found
      have other : method.toList ≠ "build".toList := by
        intro same
        rw [String.toList_inj] at same
        exact free (by rw [same]; decide)
      have keyed : callKey reader (String.ofList method.toList) (written ++ ')' :: rest) =
          some (key, written ++ ')' :: rest) := by
        have notSet : method ≠ "set" := by
          rintro rfl
          exact free (by decide)
        rw [String.ofList_toList, callKey, if_neg notSet, back]
      simp only [List.cons_append, List.append_assoc, List.nil_append]
      exact calls_method nonempty letters other keyed (Nat.le_refl _) read shorter
  | none =>
      have keyed : callKey reader "set"
          (quoteChars key.toList ++ ',' :: ' ' :: (written ++ ')' :: rest)) =
            some (key, ' ' :: (written ++ ')' :: rest)) := by
        have comma : ∀ text, eat? "," (',' :: text) = some text := fun _ => rfl
        unfold callKey stringLiteral
        simp only [if_true, literal_quoted readsBack, Option.bind_eq_bind, Option.bind_some,
          comma, String.ofList_toList]
      have spaced : value reader (' ' :: (written ++ ')' :: rest)) =
          some (content, ')' :: rest) := by
        rw [← read]
        exact value_congr rfl
      have written_eq : ".set(".toList ++ quoteChars key.toList ++ [',', ' '] ++
          (written ++ ')' :: rest) =
            '.' :: (['s', 'e', 't'] ++ '(' ::
              (quoteChars key.toList ++ ',' :: ' ' :: (written ++ ')' :: rest))) := by
        simp
      have keyShorter : (' ' :: (written ++ ')' :: rest)).length ≤
          (quoteChars key.toList ++ ',' :: ' ' :: (written ++ ')' :: rest)).length := by
        simp only [List.length_append, List.length_cons]
        omega
      simp only [written_eq]
      exact calls_method (List.cons_ne_nil _ _) (List.all_eq_true.mp rfl) (by decide) keyed
        keyShorter spaced (Nat.le_succ_of_le shorter)

theorem calls_separated (separated : Separated rest) :
    calls reader done rest = some (done, rest) := by
  cases separated with
  | comma => rw [calls]; rfl
  | parenthesis => rw [calls]; rfl
  | bracket => rw [calls]; rfl

/-- A chain ends before the call that builds it, on a line of its own. -/
theorem calls_build (level : Nat) (rest : List Char) :
    calls reader done (newLine level ++ (".build(".toList ++ rest)) =
      some (done, ".build(".toList ++ rest) := by
  have comes : startsWith ".build(" (".build(".toList ++ rest) = true := rfl
  rw [calls_congr (skip_newLine level _), calls, comes]
  rfl

/-! ## Arrays on one line -/

theorem reads_leafText {element : Layout} (readsBack : reader.ReadsBack element.document)
    (inline : Emitter.isInline element.document = true) :
    Reads reader element.leafText element.rebuilt := by
  cases element with
  | opaqueValue value => exact reads_compactChars reader value readsBack
  | scalar value isScalar => exact reads_scalar readsBack isScalar
  | array => cases inline
  | object => cases inline

theorem items_leafTexts {first : Layout} {others : List Layout}
    (readsBack : ∀ item ∈ documents (first :: others), reader.ReadsBack item)
    (inline : isInline (first :: others) = true) (rest : List Char)
    (blanks : List Char) (all : ∀ blank ∈ blanks, isBlank blank = true) :
    items reader (blanks ++
      (List.intercalate [',', ' '] ((first :: others).map leafText) ++ ']' :: rest)) =
        some (rebuiltItems (first :: others), rest) := by
  induction others generalizing first blanks with
  | nil =>
      simp only [isInline, documents, List.all_cons, List.all_nil, Bool.and_true] at inline
      have read := reads_leafText (readsBack _ (List.mem_cons_self ..)) inline
      rw [List.map_cons, List.map_nil, List.intercalate_singleton]
      exact items_cons blanks all read (.bracket rest) (items_nil [] (by simp) rest)
  | cons second others inner =>
      have inlineFirst : Emitter.isInline first.document = true := by
        simp only [isInline, documents, List.all_cons, Bool.and_eq_true] at inline
        exact inline.1
      have inlineRest : isInline (second :: others) = true := by
        simp only [isInline, documents, List.all_cons, Bool.and_eq_true] at inline ⊢
        exact inline.2
      have read := reads_leafText (readsBack _ (List.mem_cons_self ..)) inlineFirst
      have readRest := inner (fun item mem => readsBack item (List.mem_cons_of_mem _ mem))
        inlineRest [' '] (List.all_eq_true.mp rfl)
      rw [List.map_cons, List.map_cons, List.intercalate_cons_cons, List.append_assoc,
        List.append_assoc]
      exact items_cons blanks all read (.comma _) readRest

/-! ## Layouts -/

mutual

/-- The source of a layout is read back as what the builder builds from it. -/
theorem reads_text (reader : LiteralReader) (level : Nat) (layout : Layout)
    (readsBack : reader.ReadsBack layout.document) (distinct : layout.document.KeysDistinct) :
    Reads reader (layout.text level) layout.rebuilt := by
  match layout with
  | .opaqueValue value => exact reads_compactChars reader value readsBack
  | .scalar value isScalar => exact reads_scalar readsBack isScalar
  | .array elements =>
      have each : ∀ item ∈ documents elements, reader.ReadsBack item :=
        fun item mem => readsBack.element mem
      have distinctEach := itemKeysDistinct_iff.mp distinct
      cases inline : isInline elements with
      | false =>
          have inside : ∀ rest, items reader
              (elementLines (level + 1) elements ++ newLine level ++ ']' :: rest) =
                some (rebuiltItems elements, rest) := by
            intro rest
            rw [List.append_assoc]
            exact items_elementLines reader (level + 1) elements each distinctEach level rest
          have array := reads_array inside
          rw [text_lines inline]
          exact array
      | true =>
          rw [text_inline inline]
          apply reads_array
          intro rest
          cases elements with
          | nil => exact items_nil [] (by simp) rest
          | cons first others => exact items_leafTexts each inline rest [] (by simp)
  | .object members =>
      have each : ∀ member ∈ memberDocuments members, reader.ReadsBack member.2 :=
        fun _ mem => readsBack.member mem
      obtain ⟨nodup, distinctEach⟩ := keysDistinct_object.mp distinct
      refine ⟨⟨'n', _, rfl, by decide, by decide, by decide⟩, ?_⟩
      intro rest separated
      have node : ∀ text, startsWith "node(" ("node()".toList ++ text) = true := fun _ => rfl
      have factory : ∀ text, eat? "node" ("node()".toList ++ text) =
          some ('(' :: ')' :: text) := fun _ => rfl
      have open_ : ∀ text, eat? "(" ('(' :: ')' :: text) = some (')' :: text) := fun _ => rfl
      have close : ∀ text, eat? ")" (')' :: text) = some text := fun _ => rfl
      have shorter : ∀ text : List Char, text.length < (skip ("node()".toList ++ text)).length :=
        length_lt_skip (by decide) "ode()".toList
      have read := calls_members reader (level + 1) members [] each distinctEach nodup rest
      rw [calls_separated separated] at read
      rw [text_object, List.append_assoc, value, node, if_pos rfl, chain, factory]
      simp only [open_, close, advance?_of_lt (shorter _), read, Option.bind_eq_bind,
        Option.bind_some]
      rfl

theorem items_elementLines (reader : LiteralReader) (level : Nat) (elements : List Layout)
    (readsBack : ∀ item ∈ documents elements, reader.ReadsBack item)
    (distinct : ∀ item ∈ documents elements, item.KeysDistinct) (outer : Nat)
    (rest : List Char) :
    items reader (elementLines level elements ++ (newLine outer ++ ']' :: rest)) =
      some (rebuiltItems elements, rest) := by
  match elements with
  | [] => exact items_nil (newLine outer) isBlank_of_mem_newLine rest
  | element :: others =>
      have read := reads_text reader level element (readsBack _ (List.mem_cons_self ..))
        (distinct _ (List.mem_cons_self ..))
      have readRest := items_elementLines reader level others
        (fun item mem => readsBack item (List.mem_cons_of_mem _ mem))
        (fun item mem => distinct item (List.mem_cons_of_mem _ mem)) outer rest
      rw [elementLines, List.append_assoc, List.append_assoc, List.cons_append]
      exact items_cons (newLine level) isBlank_of_mem_newLine read (.comma _) readRest

/-- The calls of a chain put the members behind those that are there. -/
theorem calls_members (reader : LiteralReader) (level : Nat) (members : List (String × Layout))
    (done : Members)
    (readsBack : ∀ member ∈ memberDocuments members, reader.ReadsBack member.2)
    (distinct : ∀ member ∈ memberDocuments members, member.2.KeysDistinct)
    (nodup : (done.map (·.1) ++ (memberDocuments members).map (·.1)).Nodup)
    (rest : List Char) :
    calls reader done (Layout.calls level members ++ rest) =
      calls reader (done ++ rebuiltMembers members) rest := by
  match members with
  | [] => rw [Layout.calls, rebuiltMembers, List.nil_append, List.append_nil]
  | (key, member) :: others =>
      have readsFirst : reader.ReadsBack member.document := readsBack _ (List.mem_cons_self ..)
      have read := reads_text reader level member readsFirst (distinct _ (List.mem_cons_self ..))
      -- the key is new, so the member goes to the end of those that are there
      have new : key ∉ done.map (·.1) := by
        intro mem
        exact (List.nodup_append.mp nodup).2.2 key mem key (List.mem_cons_self ..) rfl
      have nodupRest : ((done ++ [(key, member.rebuilt)]).map (·.1) ++
          (memberDocuments others).map (·.1)).Nodup := by
        simpa [memberDocuments] using nodup
      have readRest := calls_members reader level others (done ++ [(key, member.rebuilt)])
        (fun other mem => readsBack other (List.mem_cons_of_mem _ mem))
        (fun other mem => distinct other (List.mem_cons_of_mem _ mem)) nodupRest rest
      rw [Layout.calls, List.append_assoc, List.append_assoc, List.append_assoc,
        calls_congr (skip_newLine level _), List.cons_append, calls_callStart readsFirst read,
        putEntry_of_new new, readRest, rebuiltMembers, List.append_assoc]
      rfl

end

end Replay

end Pipewright
