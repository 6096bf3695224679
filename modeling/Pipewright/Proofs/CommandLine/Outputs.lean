import Mathlib.Data.List.Permutation
import Pipewright.Proofs.Builder.Balance
import Pipewright.Proofs.CommandLine.Running

/-!
# What the emitter leaves in a directory

The sources are written one after another into one directory, each under the stem of its
document.  A source is overwritten by those behind it that share the stem, and by nothing
else.  All documents are found in the directory exactly if those that share a stem give the
same source.
-/

namespace Pipewright

namespace Program

variable {tree final : FileTree} {directory path source content : String}

/-! ## Names of generated files -/

/-- The stem that a document shares with the file that is written for it. -/
def outputStem (path : String) : String :=
  (FileName.stem? path).getD "pipeline"

/-- The name of the file that is written for a document. -/
def outputName (path : String) : String :=
  outputStem path ++ ".ts"

theorem targetPath_eq_join (directory path : String) :
    targetPath directory path = FileName.join directory (outputName path) :=
  rfl

theorem outputName_eq_iff {other : String} :
    outputName path = outputName other ↔ outputStem path = outputStem other := by
  constructor
  · intro same
    have letters := congrArg String.toList same
    rw [outputName, outputName, String.toList_append, String.toList_append] at letters
    exact String.toList_injective (List.append_cancel_right letters)
  · intro same
    rw [outputName, outputName, same]

theorem noSlash_outputStem (path : String) : '/' ∉ (outputStem path).toList := by
  unfold outputStem
  cases found : FileName.stem? path with
  | none => decide
  | some stem => exact FileName.noSlash_of_stem? found

theorem isProper_outputName (path : String) : FileName.IsProper (outputName path) := by
  have long : ".ts".length ≤ (outputName path).length := by
    rw [outputName, String.length_append]
    exact Nat.le_add_left _ _
  refine ⟨?_, ?_, ?_, ?_⟩
  · rw [outputName, String.toList_append, List.mem_append, not_or]
    exact ⟨noSlash_outputStem path, by decide⟩
  all_goals
    intro short
    rw [short] at long
    exact absurd long (by decide)

/-! ## What is read back -/

/-- What is read for a document stays until a source is written under its stem. -/
theorem Writes.keeps {entries : List (String × String)}
    (writes : Writes directory tree entries final)
    (others : ∀ entry ∈ entries, outputStem entry.1 ≠ outputStem path)
    (read : tree.readText (targetPath directory path) = .ok content) :
    final.readText (targetPath directory path) = .ok content := by
  induction writes with
  | done => exact read
  | next written rest inner =>
      rw [List.forall_mem_cons] at others
      have different := mt outputName_eq_iff.mp others.1.symm
      exact inner others.2 (FileTree.readText_writeText_of_ne (isProper_outputName _)
        (isProper_outputName path) different written read)

/-- The last source under a stem is read back. -/
theorem Writes.readText_of_last {before after : List (String × String)}
    (writes : Writes directory tree (before ++ (path, source) :: after) final)
    (last : ∀ entry ∈ after, outputStem entry.1 ≠ outputStem path) :
    final.readText (targetPath directory path) = .ok source := by
  induction before generalizing tree with
  | nil =>
      cases writes with
      | next written rest =>
          exact rest.keeps last (FileTree.readText_writeText (isProper_outputName path) written)
  | cons entry before inner =>
      cases writes with
      | next _ rest => exact inner rest

/-- Each document has a last one among those that share its stem. -/
theorem exists_last_namesake {paths : List String} (listed : path ∈ paths) :
    ∃ before last after, paths = before ++ last :: after ∧
      outputStem path = outputStem last ∧
        ∀ later ∈ after, outputStem later ≠ outputStem last := by
  have stem : outputStem path ∈ (paths.map outputStem).reverse :=
    List.mem_reverse.mpr (List.mem_map_of_mem listed)
  obtain ⟨behind, front, cut, absent⟩ := List.eq_append_cons_of_mem stem
  have stems : paths.map outputStem = front.reverse ++ outputStem path :: behind.reverse := by
    rw [← List.reverse_reverse (paths.map outputStem), cut]
    simp
  obtain ⟨before, rest, rfl, -, tail⟩ := List.map_eq_append_iff.mp stems
  obtain ⟨last, after, rfl, same, behindLast⟩ := List.map_eq_cons_iff.mp tail
  refine ⟨before, last, after, rfl, same.symm, fun later member shared => absent ?_⟩
  rw [← List.mem_reverse, ← behindLast, ← same, ← shared]
  exact List.mem_map_of_mem member

/-- Sources that were made one after another are listed with their documents. -/
theorem paired_of_mapM {result : String → Except Failure String} {paths : List String}
    {entries : List (String × String)}
    (made : paths.mapM (fun path => (result path).map fun source => (path, source)) =
      .ok entries) :
    entries.map Prod.fst = paths ∧ ∀ entry ∈ entries, result entry.1 = .ok entry.2 := by
  induction paths generalizing entries with
  | nil =>
      cases made
      exact ⟨rfl, List.forall_mem_nil _⟩
  | cons path rest inner =>
      rw [List.mapM_cons] at made
      cases first : result path with
      | error failure =>
          rw [first] at made
          cases made
      | ok source =>
          rw [first] at made
          cases others : rest.mapM
              (fun path => (result path).map fun source => (path, source)) with
          | error failure =>
              rw [others] at made
              cases made
          | ok later =>
              rw [others] at made
              cases made
              obtain ⟨paths, sources⟩ := inner others
              exact ⟨congrArg (path :: ·) paths, List.forall_mem_cons.mpr ⟨first, sources⟩⟩

/-- The file that is written for a document holds what is generated for the document. -/
def IsEmitted (before after : FileTree) (schema : Schema) (pointer : Option String)
    (config : EmitterConfig) (directory path : String) : Prop :=
  ∃ document source, documentAt before pointer path = .ok document ∧
    generate document schema config = .ok source ∧
      after.readText (targetPath directory path) = .ok source

theorem isEmitted_iff_sourceAt {before after : FileTree} {schema : Schema} {pointer : Option String}
    {config : EmitterConfig} :
    IsEmitted before after schema pointer config directory path ↔
      ∃ source, sourceAt before schema pointer config path = .ok source ∧
        after.readText (targetPath directory path) = .ok source := by
  unfold sourceAt
  constructor
  · rintro ⟨document, source, found, generated, read⟩
    refine ⟨source, ?_, read⟩
    rw [found, Except.bind, generated]
    rfl
  · rintro ⟨source, made, read⟩
    cases found : documentAt before pointer path with
    | error failure =>
        rw [found] at made
        cases made
    | ok document =>
        rw [found, Except.bind] at made
        cases generated : generate document schema config with
        | error cycle =>
            rw [generated] at made
            cases made
        | ok text =>
            rw [generated] at made
            cases made
            exact ⟨document, source, found, generated, read⟩

/-- A document is found in its file exactly if it gives the same source as the last document
of its stem. -/
theorem Writes.isEmitted_iff {created : FileTree} {schema : Schema} {pointer : Option String}
    {config : EmitterConfig} {entries : List (String × String)}
    (writes : Writes directory created entries final)
    (sources : ∀ entry ∈ entries,
      sourceAt tree schema pointer config entry.1 = .ok entry.2)
    {before after : List String} {last : String}
    (listed : entries.map Prod.fst = before ++ last :: after)
    (isLast : ∀ later ∈ after, outputStem later ≠ outputStem last)
    (shared : outputStem path = outputStem last) :
    IsEmitted tree final schema pointer config directory path ↔
      sourceAt tree schema pointer config path = sourceAt tree schema pointer config last := by
  obtain ⟨front, rest, rfl, -, tail⟩ := List.map_eq_append_iff.mp listed
  obtain ⟨⟨last, source⟩, behind, rfl, rfl, rfl⟩ := List.map_eq_cons_iff.mp tail
  have read : final.readText (targetPath directory last) = .ok source :=
    writes.readText_of_last fun entry member => isLast _ (List.mem_map_of_mem member)
  have made : sourceAt tree schema pointer config last = .ok source :=
    sources _ (List.mem_append_right _ List.mem_cons_self)
  have sameFile : targetPath directory path = targetPath directory last := by
    rw [targetPath_eq_join, targetPath_eq_join, outputName_eq_iff.mpr shared]
  rw [isEmitted_iff_sourceAt, sameFile, read, made]
  constructor
  · rintro ⟨_, made', ⟨⟩⟩
    exact made'
  · intro made'
    exact ⟨source, made', rfl⟩

/-- When sources are written into a directory, the last document of each stem is found there,
and another document of the stem is found exactly if it gives the same source.  So all
documents are found exactly if those that share a stem give the same source. -/
theorem last_of_stem_is_emitted (tree : FileTree) (arguments : List String)
    {schemaPath directory : String} {paths : List String} {pointer module : Option String}
    {indent : Option Nat}
    (command : Command.read arguments =
      .ok (.emit schemaPath ⟨paths, pointer⟩ (some directory) module indent))
    (literal : ∀ path ∈ paths, path.toList.any Wildcard.isSpecial = false)
    (success : (runOn tree arguments).1.status = 0) :
    ∃ schema, schemaAt tree schemaPath = .ok schema ∧
      (∀ path ∈ paths, ∃ source,
        sourceAt tree schema pointer (emitterConfig module indent) path = .ok source) ∧
      (∀ before last after, paths = before ++ last :: after →
        (∀ later ∈ after, outputStem later ≠ outputStem last) →
          ∀ path, outputStem path = outputStem last →
            (IsEmitted tree (runOn tree arguments).2 schema pointer (emitterConfig module indent)
                directory path ↔
              sourceAt tree schema pointer (emitterConfig module indent) path =
                sourceAt tree schema pointer (emitterConfig module indent) last)) ∧
      ((∀ path ∈ paths, IsEmitted tree (runOn tree arguments).2 schema pointer
          (emitterConfig module indent) directory path) ↔
        ∀ path ∈ paths, ∀ other ∈ paths, outputStem path = outputStem other →
          sourceAt tree schema pointer (emitterConfig module indent) path =
            sourceAt tree schema pointer (emitterConfig module indent) other) := by
  have runs : runOn tree arguments = (withSchema FileTree.access schemaPath fun schema =>
      emit FileTree.access schema ⟨paths, pointer⟩ (some directory)
        (emitterConfig module indent)).run tree := by
    rw [runOn, run, command]
    rfl
  rw [runs] at success ⊢
  obtain ⟨schema, loaded, emitted, same⟩ := withSchema_run_of_status success
  rw [same]
  obtain ⟨entries, created, made, writes⟩ := emit_run_of_status literal emitted
  obtain ⟨rfl, sources⟩ := paired_of_mapM made
  have decided {before after : List String} {last : String}
      (cut : entries.map Prod.fst = before ++ last :: after)
      (isLast : ∀ later ∈ after, outputStem later ≠ outputStem last) {path : String}
      (shared : outputStem path = outputStem last) :=
    writes.isEmitted_iff sources cut isLast shared
  refine ⟨schema, loaded, fun path listed => ?_,
    fun before last after cut isLast path => decided cut isLast, ?_, ?_⟩
  · obtain ⟨entry, member, rfl⟩ := List.mem_map.mp listed
    exact ⟨entry.2, sources entry member⟩
  · intro found path listed other otherListed shared
    obtain ⟨before, last, after, cut, same, isLast⟩ := exists_last_namesake listed
    rw [(decided cut isLast same).mp (found path listed),
      (decided cut isLast (shared.symm.trans same)).mp (found other otherListed)]
  · intro agree path listed
    obtain ⟨before, last, after, cut, same, isLast⟩ := exists_last_namesake listed
    have lastListed : last ∈ entries.map Prod.fst := by
      rw [cut]
      exact List.mem_append_right _ List.mem_cons_self
    exact (decided cut isLast same).mpr (agree path listed last lastListed same)

/-- A schema that allows everything, and two documents of one stem. -/
def namesakes : FileTree :=
  .ofFiles [("s.json", "\x7b\x7d"), ("a/ci.json", "\x7b\"on\":\"push\"\x7d"),
    ("b/ci.json", "\x7b\"on\":\"release\"\x7d")]

/-- The schema among these files. -/
def permissiveSchema : Schema := ⟨Schema.identity (.object []), Node.any, []⟩

/-- Generate source for both documents. -/
def emitNamesakes : List String :=
  ["emit", "--schema", "s.json", "--input", "a/ci.json", "b/ci.json", "--out-dir", "out"]

/-- A document with a trigger. -/
def trigger (event : String) : Json := .object [("on", .string event)]

/-- The source of such a document. -/
def triggerSource (event : String) : String :=
  "import \x7b pipeline \x7d from \"@pipeline-dsl/builder\";\n\n" ++
    "export default pipeline()\n  .on(\"" ++ event ++ "\")\n  .build();\n"

/-- The outline of such a document. -/
def triggerOutline (event : String) : Walk.Outline :=
  let root : Context := ⟨[], some Node.any, .object, trigger event, none, none⟩
  let place := Walk.placeBelow root (.key "on") (some Node.any) (.string event)
  .node root (.branch .property (.node place .finished) .finished)

theorem read_emitNamesakes : Command.read emitNamesakes =
    .ok (.emit "s.json" ⟨["a/ci.json", "b/ci.json"], none⟩ (some "out") none none) := by
  rfl

theorem schemaAt_namesakes : schemaAt namesakes "s.json" = .ok permissiveSchema := by
  have text : namesakes.readText "s.json" = .ok "\x7b\x7d" := by decide +kernel
  have source : Json.read "\x7b\x7d" = .ok (.object []) := by cbv
  rw [schemaAt, text]
  dsimp only
  rw [loadSchema, source]
  rfl

theorem documentOutline_trigger (event : String) :
    Walk.documentOutline permissiveSchema (trigger event) = .ok (triggerOutline event) := by
  simp [Walk.documentOutline, Walk.context, Except.map, Schema.effective_of_plain,
    permissiveSchema, Node.any, Node.isUnion, Schema.keepIfAccepted, Node.acceptsType,
    Walk.outline, Walk.branches, Walk.memberBranches, Walk.memberContext, trigger,
    Node.propertyNode?, Node.patternNode?, shapeOf, List.lookup_nil]
  rfl

theorem generate_trigger {event : String} (listed : event ∈ ["push", "release"]) :
    generate (trigger event) permissiveSchema (emitterConfig none none) =
      .ok (triggerSource event) := by
  have written : ∀ event ∈ ["push", "release"],
      ((triggerOutline event).run Emitter.observer
          (Emitter.start (emitterConfig none none))).2 = .ok () ∧
        ((triggerOutline event).run Emitter.observer
          (Emitter.start (emitterConfig none none))).1.text = triggerSource event := by
    decide +kernel
  have walked :
      (Emitter.start (emitterConfig none none)).emit (trigger event) permissiveSchema =
        (triggerOutline event).run Emitter.observer (Emitter.start (emitterConfig none none)) := by
    rw [Emitter.emit, Walk.walk_eq_run, documentOutline_trigger]
  obtain ⟨succeeded, text⟩ := written event listed
  rw [← walked] at succeeded text
  rw [← text]
  have emits : Emitter.Emits (emitterConfig none none) (trigger event, permissiveSchema) :=
    succeeded
  exact Emitter.generate_of_emits emits

theorem sourceAt_of_trigger {event text : String} (listed : event ∈ ["push", "release"])
    (read : tree.readText path = .ok text)
    (isJson : isYaml path = false) (parsed : Json.read text = .ok (trigger event)) :
    sourceAt tree permissiveSchema none (emitterConfig none none) path =
      .ok (triggerSource event) := by
  have found : documentAt tree none path = .ok (trigger event) := by
    rw [documentAt, read]
    dsimp only
    rw [parseDocument, isJson, parsed]
    rfl
  rw [sourceAt, found, Except.bind, generate_trigger listed]
  rfl

theorem sourceAt_namesakes :
    sourceAt namesakes permissiveSchema none (emitterConfig none none) "a/ci.json" =
        .ok (triggerSource "push") ∧
      sourceAt namesakes permissiveSchema none (emitterConfig none none) "b/ci.json" =
        .ok (triggerSource "release") := by
  constructor
  · have read : namesakes.readText "a/ci.json" = .ok "\x7b\"on\":\"push\"\x7d" := by
      decide +kernel
    exact sourceAt_of_trigger (by decide) read (by decide +kernel) (by cbv)
  · have read : namesakes.readText "b/ci.json" = .ok "\x7b\"on\":\"release\"\x7d" := by
      decide +kernel
    exact sourceAt_of_trigger (by decide) read (by decide +kernel) (by cbv)

/-- The run writes one file, which holds the source of the second document. -/
theorem runOn_namesakes :
    (runOn namesakes emitNamesakes).1.status = 0 ∧
      (runOn namesakes emitNamesakes).2.readText "out/ci.ts" = .ok (triggerSource "release") := by
  have literal : ∀ path ∈ ["a/ci.json", "b/ci.json"],
      path.toList.any Wildcard.isSpecial = false := by
    decide
  have written :
      let wrote := (writeSources FileTree.access "out"
        [("a/ci.json", triggerSource "push"), ("b/ci.json", triggerSource "release")]).run namesakes
      wrote.1.status = 0 ∧ wrote.2.readText "out/ci.ts" = .ok (triggerSource "release") := by
    decide +kernel
  rw [runOn, run, read_emitNamesakes]
  dsimp only
  rw [runCommand, withSchema_run, schemaAt_namesakes]
  dsimp only
  rw [emit_into_directory, withPaths_run_of_literal literal]
  have generated : (forEach (generateFrom FileTree.access permissiveSchema none
      (emitterConfig none none)) ["a/ci.json", "b/ci.json"]).run namesakes =
        (.ok [("a/ci.json", triggerSource "push"), ("b/ci.json", triggerSource "release")],
          namesakes) := by
    rw [forEach_run fun path _ => generateFrom_run namesakes permissiveSchema none _ path,
      List.mapM_cons, List.mapM_cons, List.mapM_nil, sourceAt_namesakes.1,
      sourceAt_namesakes.2]
    rfl
  rw [run_bind_of_unchanged generated, orReport]
  exact written

/-- Of two documents of one stem the second is found, and the first, which gives another
source, is not. -/
theorem last_of_stem_is_emitted_of_namesakes :
    (runOn namesakes emitNamesakes).1.status = 0 ∧
      ∃ schema, schemaAt namesakes "s.json" = .ok schema ∧
        IsEmitted namesakes (runOn namesakes emitNamesakes).2 schema none
          (emitterConfig none none) "out" "b/ci.json" ∧
        ¬ IsEmitted namesakes (runOn namesakes emitNamesakes).2 schema none
          (emitterConfig none none) "out" "a/ci.json" := by
  have success := runOn_namesakes.1
  obtain ⟨schema, loaded, -, decided, -⟩ :=
    last_of_stem_is_emitted namesakes emitNamesakes read_emitNamesakes (by decide) success
  have byStem := decided ["a/ci.json"] "b/ci.json" [] rfl (List.forall_mem_nil _)
  refine ⟨success, schema, loaded, (byStem "b/ci.json" rfl).mpr rfl, fun found => ?_⟩
  have same := (byStem "a/ci.json" (by decide +kernel)).mp found
  obtain rfl : permissiveSchema = schema := Except.ok.inj (schemaAt_namesakes.symm.trans loaded)
  rw [sourceAt_namesakes.1, sourceAt_namesakes.2] at same
  exact absurd (Except.ok.inj same) (by decide)

/-- A run that succeeds can leave a document without its source: the file that was written
for the first document holds the source of the second one. -/
theorem first_namesake_is_lost :
    Command.read emitNamesakes =
        .ok (.emit "s.json" ⟨["a/ci.json", "b/ci.json"], none⟩ (some "out") none none) ∧
      (∀ path ∈ ["a/ci.json", "b/ci.json"], path.toList.any Wildcard.isSpecial = false) ∧
      (runOn namesakes emitNamesakes).1.status = 0 ∧
      ¬ ∃ schema, schemaAt namesakes "s.json" = .ok schema ∧
        ∀ path ∈ ["a/ci.json", "b/ci.json"],
          IsEmitted namesakes (runOn namesakes emitNamesakes).2 schema none
            (emitterConfig none none) "out" path := by
  refine ⟨read_emitNamesakes, by decide, runOn_namesakes.1, ?_⟩
  rintro ⟨schema, loaded, emitted⟩
  obtain rfl : permissiveSchema = schema := Except.ok.inj (schemaAt_namesakes.symm.trans loaded)
  obtain ⟨source, made, read⟩ := isEmitted_iff_sourceAt.mp (emitted "a/ci.json" List.mem_cons_self)
  have target : targetPath "out" "a/ci.json" = "out/ci.ts" := by decide +kernel
  rw [target, runOn_namesakes.2] at read
  rw [sourceAt_namesakes.1] at made
  have same := (Except.ok.inj made).trans (Except.ok.inj read).symm
  exact absurd same (by decide)

end Program

end Pipewright
