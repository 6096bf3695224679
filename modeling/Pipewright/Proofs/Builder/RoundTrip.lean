import Pipewright.Proofs.Builder.Emission
import Pipewright.Proofs.Builder.Reading
import Pipewright.Proofs.Json.Strings
import Pipewright.Proofs.Resolution.Acyclic

/-!
# Round trip

Generated source is read back to its end, as a document that differs from the
original in no more than the blanks around the bodies of its expressions.  Of the
reader of literals no more is asked than that it reads back what was written.
-/

namespace Pipewright

namespace Replay

open Json Layout Emitter Canonical

variable {reader : LiteralReader} {schema : Schema} {document : Json} {layout : Layout}

/-! ## The import -/

theorem afterSemicolon?_append {before : List Char} (none : ';' ∉ before) (rest : List Char) :
    afterSemicolon? (before ++ ';' :: rest) = some rest := by
  induction before with
  | nil => rfl
  | cons first before inner =>
      rw [List.mem_cons, not_or] at none
      rw [List.cons_append, afterSemicolon?]
      · exact inner none.2
      · intro same
        exact none.1 same.symm

/-- The only semicolon of the import is its last character. -/
theorem header_eq {emitter : Emitter} (config : emitter.config = EmitterConfig.standard) :
    ∃ names, ';' ∉ names ∧ emitter.header = "import".toList ++ (names ++ [';', '\n']) := by
  refine ⟨" \x7b ".toList ++ (String.intercalate ", " emitter.helpers).toList ++
    " \x7d from ".toList ++ quoteChars emitter.config.module.toList, ?_, ?_⟩
  · unfold helpers
    rw [config]
    cases emitter.usesNode <;> cases emitter.usesExpression <;> decide
  · unfold header
    simp

theorem skip_header {emitter : Emitter} (config : emitter.config = EmitterConfig.standard)
    (rest : List Char) :
    (eat? "import" (emitter.header ++ rest)).bind afterSemicolon? = some ('\n' :: rest) := by
  obtain ⟨names, none, same⟩ := header_eq config
  have import_ : ∀ text, eat? "import" ("import".toList ++ text) = some text := fun _ => rfl
  rw [same, List.append_assoc, import_, Option.bind_some, List.append_assoc]
  exact afterSemicolon?_append none _

/-! ## The root -/

/-- The end of generated source. -/
def ending : List Char :=
  newLine 1 ++ ".build();\n".toList

/-- The call of the root factory, and the calls after it, are read up to the end. -/
theorem chain_root (isRoot : IsRoot layout) (readsBack : reader.ReadsBack layout.document)
    (distinct : layout.document.KeysDistinct) :
    ∃ rest, chain reader "pipeline" (' ' :: (rootText layout ++ ending)) =
        some (layout.rebuilt, rest) ∧ skip rest = ".build();\n".toList := by
  have open_ : ∀ text, eat? "(" ('(' :: text) = some text := fun _ => rfl
  have close : ∀ text, eat? ")" (')' :: text) = some text := fun _ => rfl
  cases isRoot with
  | chain members =>
      obtain ⟨nodup, distinctEach⟩ := keysDistinct_object.mp distinct
      have factory : ∀ text, eat? "pipeline" (' ' :: ("pipeline()".toList ++ text)) =
          some ('(' :: ')' :: text) := fun _ => rfl
      have shorter : ∀ text : List Char,
          text.length < (skip (' ' :: ("pipeline()".toList ++ text))).length :=
        length_lt_skip (rfl : isBlank 'p' = false) "ipeline()".toList
      have read := calls_members reader 1 members [] (fun _ mem => readsBack.member mem)
        distinctEach nodup ending
      have built : calls reader ([] ++ rebuiltMembers members) ending =
          some (rebuiltMembers members, ".build();\n".toList) := by
        have split : ".build();\n".toList = ".build(".toList ++ [')', ';', '\n'] := by simp
        rw [ending, split]
        exact calls_build 1 _
      refine ⟨".build();\n".toList, ?_, rfl⟩
      rw [rootText_object, List.append_assoc, chain, factory]
      simp only [open_, close, advance?_of_lt (shorter _), read, built, Option.bind_eq_bind,
        Option.bind_some]
      rfl
  | literal value =>
      have factory : ∀ text, eat? "pipeline" (' ' :: ("pipeline(".toList ++ text)) =
          some ('(' :: text) := fun _ => rfl
      have shorter : ∀ text : List Char,
          text.length < (skip (' ' :: ("pipeline(".toList ++ text))).length :=
        length_lt_skip (rfl : isBlank 'p' = false) "ipeline(".toList
      obtain ⟨starts, read⟩ := reads_compactChars reader value readsBack
      obtain ⟨first, more, same, plain, _, noClose⟩ := starts
      have noArgument : eat? ")" (value.compactChars ++ ')' :: ending) = none := by
        rw [same]
        exact eat?_of_ne rfl plain noClose _
      have text : rootText (.opaqueValue value) ++ ending =
          "pipeline(".toList ++ (value.compactChars ++ ')' :: ending) := by
        rw [rootText_opaqueValue]
        simp
      refine ⟨ending, ?_, skip_newLine 1 _⟩
      rw [text, chain, factory]
      simp only [open_, close, noArgument, advance?_of_lt (shorter _),
        read (.parenthesis ending), Option.bind_eq_bind, Option.bind_some]
      rfl

/-- The source of a layout behind an import is read back to its end. -/
theorem program_source {emitter : Emitter} (config : emitter.config = EmitterConfig.standard)
    (isRoot : IsRoot layout) (readsBack : reader.ReadsBack layout.document)
    (distinct : layout.document.KeysDistinct) :
    program reader (emitter.header ++ ("\nexport default ".toList ++
      (rootText layout ++ ending))) = some layout.rebuilt := by
  obtain ⟨rest, read, left⟩ := chain_root isRoot readsBack distinct
  have imported := skip_header config ("\nexport default ".toList ++ (rootText layout ++ ending))
  have exports : ∀ text, eat? "export default" ('\n' :: ("\nexport default ".toList ++ text)) =
      some (' ' :: text) := fun _ => rfl
  have builds : eat? ".build()" rest = some [';', '\n'] := by
    have same : skip rest = skip ".build();\n".toList := left
    rw [eat?_congr same]
    rfl
  have semicolon : eat? ";" [';', '\n'] = some ['\n'] := rfl
  unfold program
  simp only [Option.bind_eq_bind]
  rw [← Option.bind_assoc, imported]
  simp only [Option.bind_some, exports, read, builds, semicolon]
  rfl

end Replay

open Replay Canonical

theorem LiteralReader.ofDocuments_readsBack (key text : String) :
    LiteralReader.ofDocuments.ReadsBack (.object [(key, .string text)]) := by
  have parts : ∀ value : Json, value.PartOf (.object [(key, .string text)]) →
      value = .object [(key, .string text)] ∨ value = .string text := by
    intro value part
    cases part with
    | whole => exact .inl rfl
    | member mem inside =>
        obtain ⟨rfl, rfl⟩ := Prod.mk.inj (List.mem_singleton.mp mem)
        cases inside
        exact .inr rfl
  refine ⟨?_, ?_, ?_⟩
  · intro text rest
    change (JsonReader.readValue _ _).toOption = _
    rw [JsonReader.readValue_quoteChars]
    rfl
  · intro members rest part
    rcases parts _ part with same | same
    · rw [same]
      change (JsonReader.readValue (126 + 1) _).toOption = _
      rw [JsonReader.readValue_member]
      rfl
    · cases same
  · intro value isScalar notString part
    rcases parts _ part with rfl | rfl
    · cases isScalar
    · exact absurd rfl (notString text)

/-- Reading generated source back consumes all of it and gives the document, except that
expressions may be spaced in its strings; its normal form is that of the document. -/
theorem generate_replays (reader : LiteralReader) {schema : Schema} {document : Json}
    {source : String} (distinct : document.KeysDistinct) (readsBack : reader.ReadsBack document)
    (generated : generate document schema EmitterConfig.standard = .ok source) :
    ∃ rebuilt, program reader source.toList = some rebuilt ∧ Respaced document rebuilt ∧
      ∀ table, normalize table rebuilt = normalize table document := by
  obtain ⟨emitter, layout, config, rfl, isRoot, text⟩ := Emitter.generate_text generated
  have respaced := layout.respaced
  refine ⟨layout.rebuilt, ?_, respaced, fun table => respaced.normalize_eq⟩
  rw [text]
  have read := program_source config isRoot readsBack distinct
  rw [ending, ← List.append_assoc, ← List.append_assoc, ← List.append_assoc] at read
  simpa only [List.append_assoc] using read

theorem generate_replays_on_tree :
    ∃ source rebuilt,
      generate (.object [("child", .string "$\x7b\x7bx\x7d\x7d")]) Schema.treeSchema
        EmitterConfig.standard = .ok source ∧
      program LiteralReader.ofDocuments source.toList = some rebuilt ∧
      Respaced (.object [("child", .string "$\x7b\x7bx\x7d\x7d")]) rebuilt := by
  obtain ⟨source, generated⟩ := Schema.treeSchema_acyclic.generate_ok
    (.object [("child", .string "$\x7b\x7bx\x7d\x7d")]) EmitterConfig.standard
  have distinct : (Json.object [("child", .string "$\x7b\x7bx\x7d\x7d")]).KeysDistinct :=
    Json.keysDistinct_object.mpr ⟨by simp, by
      intro member mem
      rw [List.mem_singleton.mp mem]
      trivial⟩
  obtain ⟨rebuilt, read, respaced, _⟩ := generate_replays LiteralReader.ofDocuments distinct
    (LiteralReader.ofDocuments_readsBack _ _) generated
  exact ⟨source, rebuilt, generated, read, respaced⟩

end Pipewright
