import Pipewright.CommandLine.Program
import Pipewright.Proofs.CommandLine.Writing

/-!
# Runs on files in memory

Finding, reading and generating leave the files as they are, so what these steps give is told
by the files alone.  A run that succeeds went through all its steps: the schema was loaded,
each document was turned into its source, and the sources were written one after another.
-/

namespace Pipewright

namespace Program

variable {tree final : FileTree} {directory path : String}

/-! ## Steps that only look -/

/-- The schema at a path. -/
def schemaAt (tree : FileTree) (path : String) : Except Failure Schema :=
  match tree.readText path with
  | .error fault => .error (.schemaUnreadable path fault)
  | .ok text => (loadSchema path text).2

/-- The reports of reading the schema at a path. -/
def schemaReports (tree : FileTree) (path : String) : List String :=
  match tree.readText path with
  | .error _ => []
  | .ok text => (loadSchema path text).1

/-- The document at a path, or the part of it that a pointer selects. -/
def documentAt (tree : FileTree) (pointer : Option String) (path : String) :
    Except Failure Json :=
  match tree.readText path with
  | .error fault => .error (.documentUnreadable path fault)
  | .ok text => (parseDocument path text).bind (selectPart path pointer)

/-- The source of the document at a path. -/
def sourceAt (tree : FileTree) (schema : Schema) (pointer : Option String)
    (config : EmitterConfig) (path : String) : Except Failure String :=
  (documentAt tree pointer path).bind fun document =>
    orFail (.notGenerated path) (generate document schema config)

/-- Behind a step that leaves the files as they are, the next one starts with its result. -/
theorem run_bind_of_unchanged {α β : Type} {step : StateM FileTree α} {result : α}
    (unchanged : step.run tree = (result, tree)) (next : α → StateM FileTree β) :
    (step >>= next).run tree = (next result).run tree := by
  rw [StateT.run_bind, unchanged]
  rfl

theorem withSchema_run (tree : FileTree) (path : String)
    (next : Schema → StateM FileTree Outcome) :
    (withSchema FileTree.access path next).run tree =
      match schemaAt tree path with
      | .error failure => ((Outcome.failed "" failure).after (schemaReports tree path), tree)
      | .ok schema =>
          (((next schema).run tree).1.after (schemaReports tree path),
            ((next schema).run tree).2) := by
  have read : (FileTree.access.readText path).run tree = (tree.readText path, tree) := rfl
  unfold withSchema schemaAt schemaReports
  rw [run_bind_of_unchanged read]
  cases tree.readText path with
  | error fault => rfl
  | ok text =>
      dsimp only
      cases (loadSchema path text).2 <;> rfl

theorem loadDocument_run (tree : FileTree) (pointer : Option String) (path : String) :
    (loadDocument FileTree.access path pointer).run tree =
      (documentAt tree pointer path, tree) := by
  have read : (FileTree.access.readText path).run tree = (tree.readText path, tree) := rfl
  unfold loadDocument documentAt
  rw [run_bind_of_unchanged read]
  cases tree.readText path <;> rfl

theorem generateFrom_run (tree : FileTree) (schema : Schema) (pointer : Option String)
    (config : EmitterConfig) (path : String) :
    (generateFrom FileTree.access schema pointer config path).run tree =
      ((sourceAt tree schema pointer config path).map fun source => (path, source), tree) := by
  unfold generateFrom sourceAt
  rw [run_bind_of_unchanged (loadDocument_run tree pointer path)]
  cases documentAt tree pointer path <;> rfl

theorem inputPaths_run_of_literal {input : String}
    (literal : input.toList.any Wildcard.isSpecial = false) :
    (inputPaths FileTree.access input).run tree = (.ok [input], tree) := by
  rw [inputPaths, literal]
  rfl

theorem forEach_cons_run {α β : Type} (action : α → StateM FileTree (Except Failure β))
    (first : α) (rest : List α) (tree : FileTree) :
    (forEach action (first :: rest)).run tree =
      match (action first).run tree with
      | (.error failure, after) => (.error failure, after)
      | (.ok result, after) =>
          match (forEach action rest).run after with
          | (.error failure, last) => (.error failure, last)
          | (.ok results, last) => (.ok (result :: results), last) := by
  rw [forEach, StateT.run_bind]
  obtain ⟨result | result, after⟩ := (action first).run tree
  · rfl
  · change StateT.run (forEach action rest >>= _) after = _
    rw [StateT.run_bind]
    dsimp only
    obtain ⟨results | results, last⟩ := (forEach action rest).run after <;> rfl

/-- Steps that leave the files as they are can be taken for all elements without them. -/
theorem forEach_run {α β : Type} {action : α → StateM FileTree (Except Failure β)}
    {result : α → Except Failure β} {elements : List α}
    (unchanged : ∀ element ∈ elements, (action element).run tree = (result element, tree)) :
    (forEach action elements).run tree = (elements.mapM result, tree) := by
  induction elements with
  | nil => rfl
  | cons first rest inner =>
      rw [List.forall_mem_cons] at unchanged
      rw [forEach_cons_run, unchanged.1, List.mapM_cons]
      cases result first with
      | error failure => rfl
      | ok value =>
          dsimp only
          rw [inner unchanged.2]
          cases rest.mapM result <;> rfl

theorem withPaths_run_of_literal {selection : DocumentSelection}
    (literal : ∀ input ∈ selection.inputs, input.toList.any Wildcard.isSpecial = false)
    (next : List String → StateM FileTree Outcome) :
    (withPaths FileTree.access selection next).run tree = (next selection.inputs).run tree := by
  have found : (forEach (inputPaths FileTree.access) selection.inputs).run tree =
      (selection.inputs.mapM fun input => .ok [input], tree) :=
    forEach_run fun input listed => inputPaths_run_of_literal (literal input listed)
  have alone : selection.inputs.mapM (fun input => (.ok [input] : Except Failure _)) =
      .ok (selection.inputs.map fun input => [input]) := List.mapM_pure
  have whole : (selection.inputs.map fun input => [input]).flatten = selection.inputs := by
    rw [← List.flatMap_def, List.flatMap_singleton']
  rw [withPaths, run_bind_of_unchanged found, alone]
  dsimp only
  rw [whole]

/-! ## Runs that succeed -/

theorem failed_status_ne_zero (output : String) (failure : Failure) :
    (Outcome.failed output failure).status ≠ 0 :=
  Nat.succ_ne_zero 1

/-- Report a fault, or go on with a value. -/
def orReport {ε α : Type} (report : ε → Outcome) (next : α → StateM FileTree Outcome) :
    Except ε α → StateM FileTree Outcome
  | .error fault => return report fault
  | .ok value => next value

theorem bind_eq_bind_orReport {ε α : Type} {step : StateM FileTree (Except ε α)}
    {go : Except ε α → StateM FileTree Outcome} {report : ε → Outcome}
    {next : α → StateM FileTree Outcome}
    (onError : ∀ fault, go (.error fault) = pure (report fault))
    (onOk : ∀ value, go (.ok value) = next value) :
    step >>= go = step >>= orReport report next := by
  have same : go = orReport report next := by
    funext result
    cases result with
    | error fault => exact onError fault
    | ok value => exact onOk value
  rw [same]

/-- A run that succeeds went on behind each of its steps. -/
theorem run_orReport_of_status {ε α : Type} {step : StateM FileTree (Except ε α)}
    {report : ε → Outcome} {next : α → StateM FileTree Outcome}
    (reported : ∀ fault, (report fault).status ≠ 0)
    (success : ((step >>= orReport report next).run tree).1.status = 0) :
    ∃ value after, step.run tree = (.ok value, after) ∧
      ((next value).run after).1.status = 0 ∧
        (step >>= orReport report next).run tree = (next value).run after := by
  rw [StateT.run_bind] at success ⊢
  cases found : step.run tree with
  | mk result after =>
      rw [found] at success
      cases result with
      | error fault => exact absurd success (reported fault)
      | ok value => exact ⟨value, after, rfl, success, rfl⟩

theorem withSchema_run_of_status {next : Schema → StateM FileTree Outcome}
    (success : ((withSchema FileTree.access path next).run tree).1.status = 0) :
    ∃ schema, schemaAt tree path = .ok schema ∧
      ((next schema).run tree).1.status = 0 ∧
      ((withSchema FileTree.access path next).run tree).2 = ((next schema).run tree).2 := by
  cases loaded : schemaAt tree path with
  | error failure =>
      rw [withSchema_run, loaded] at success
      exact absurd success (failed_status_ne_zero "" failure)
  | ok schema =>
      rw [withSchema_run, loaded] at success ⊢
      exact ⟨schema, rfl, success, rfl⟩

/-- The sources are written in turn, each under the stem of its document. -/
inductive Writes (directory : String) :
    FileTree → List (String × String) → FileTree → Prop where
  | done {tree : FileTree} : Writes directory tree [] tree
  | next {tree between final : FileTree} {path source : String}
      {rest : List (String × String)} :
      tree.writeText (targetPath directory path) source = .ok between →
      Writes directory between rest final → Writes directory tree ((path, source) :: rest) final

theorem writeSource_run (tree : FileTree) (directory path source : String) :
    (writeSource FileTree.access directory (path, source)).run tree =
      match tree.writeText (targetPath directory path) source with
      | .ok written => (.ok (), written)
      | .error fault => (.error (.fileNotWritten (targetPath directory path) fault), tree) := by
  have write : (FileTree.access.writeText (targetPath directory path) source).run tree =
      match tree.writeText (targetPath directory path) source with
      | .ok written => (.ok (), written)
      | .error fault => (.error fault, tree) :=
    FileTree.change_run _ tree
  rw [writeSource, StateT.run_bind, write]
  cases tree.writeText (targetPath directory path) source <;> rfl

theorem writes_of_forEach {entries : List (String × String)} {results : List Unit}
    (success : (forEach (writeSource FileTree.access directory) entries).run tree =
      (.ok results, final)) :
    Writes directory tree entries final := by
  induction entries generalizing tree results with
  | nil =>
      cases success
      exact .done
  | cons entry rest inner =>
      obtain ⟨path, source⟩ := entry
      rw [forEach_cons_run, writeSource_run] at success
      cases written : tree.writeText (targetPath directory path) source with
      | error fault =>
          rw [written] at success
          cases success
      | ok between =>
          rw [written] at success
          dsimp only at success
          split at success
          · cases success
          · next later others =>
              cases success
              exact .next written (inner others)

theorem writeSources_run_of_status {entries : List (String × String)}
    (success : ((writeSources FileTree.access directory entries).run tree).1.status = 0) :
    ∃ created, Writes directory created entries
      ((writeSources FileTree.access directory entries).run tree).2 := by
  have steps : writeSources FileTree.access directory entries =
      (if directory.isEmpty then pure (.ok ()) else FileTree.access.createDirectories directory) >>=
        orReport (fun fault => .failed "" (.directoryNotCreated directory fault)) fun _ =>
          forEach (writeSource FileTree.access directory) entries >>=
            orReport (.failed "") fun _ => pure (.success "") := by
    unfold writeSources
    cases directory.isEmpty with
    | true | false =>
        exact bind_eq_bind_orReport (fun _ => rfl) fun _ =>
          bind_eq_bind_orReport (fun _ => rfl) fun _ => rfl
  rw [steps] at success ⊢
  obtain ⟨-, created, -, success, ended⟩ :=
    run_orReport_of_status (fun _ => failed_status_ne_zero _ _) success
  obtain ⟨results, written, wrote, -, ended'⟩ :=
    run_orReport_of_status (fun _ => failed_status_ne_zero _ _) success
  refine ⟨created, ?_⟩
  rw [ended, ended']
  exact writes_of_forEach wrote

/-- The documents are turned into sources before the first of these is written. -/
theorem emit_into_directory (schema : Schema) (selection : DocumentSelection)
    (directory : String) (config : EmitterConfig) :
    emit FileTree.access schema selection (some directory) config =
      withPaths FileTree.access selection fun paths =>
        forEach (generateFrom FileTree.access schema selection.pointer config) paths >>=
          orReport (.failed "") (writeSources FileTree.access directory) := by
  unfold emit
  congr
  funext paths
  exact bind_eq_bind_orReport (fun _ => rfl) fun _ => rfl

/-- What a run that succeeds has generated and written. -/
theorem emit_run_of_status {schema : Schema} {selection : DocumentSelection}
    {config : EmitterConfig}
    (literal : ∀ input ∈ selection.inputs, input.toList.any Wildcard.isSpecial = false)
    (success : ((emit FileTree.access schema selection (some directory) config).run
      tree).1.status = 0) :
    ∃ entries created,
      selection.inputs.mapM (fun path =>
        (sourceAt tree schema selection.pointer config path).map fun source => (path, source)) =
          .ok entries ∧
      Writes directory created entries
        ((emit FileTree.access schema selection (some directory) config).run tree).2 := by
  rw [emit_into_directory, withPaths_run_of_literal literal] at success ⊢
  obtain ⟨entries, looked, generated, success, same⟩ :=
    run_orReport_of_status (fun _ => failed_status_ne_zero _ _) success
  rw [forEach_run fun path _ => generateFrom_run tree schema selection.pointer config path]
    at generated
  obtain ⟨made, rfl⟩ := Prod.mk.inj generated
  obtain ⟨created, writes⟩ := writeSources_run_of_status success
  exact ⟨entries, created, made, same ▸ writes⟩

end Program

end Pipewright
