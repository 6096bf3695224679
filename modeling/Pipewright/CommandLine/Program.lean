import Pipewright.Builder.Emitter
import Pipewright.Canonical.Comparison
import Pipewright.CommandLine.Command
import Pipewright.CommandLine.Wildcard
import Pipewright.Schema.Basic
import Pipewright.Yaml.Reader

/-!
# Running commands

A command reads its schema first, then finds and reads its documents, and stops
at the first failure.  What it prints, what it reports and its exit status are
its outcome; only generated source goes to files.
-/

namespace Pipewright

/-! ## Failures -/

/-- Why a command stops. -/
inductive Failure where
  | usage (fault : UsageFault)
  | schemaUnreadable (path : String) (fault : FileFault)
  | schemaInvalid (path : String) (fault : LoadFault)
  | inputInvalid (pattern : String) (fault : WildcardFault)
  | inputMissing (pattern : String)
  | documentUnreadable (path : String) (fault : FileFault)
  | documentNotJson (path : String) (fault : JsonFault)
  | documentNotYaml (path : String) (fault : YamlFault)
  | pointerUnmatched (pointer path : String)
  | notGenerated (path : String) (cycle : CyclicReference)
  | notCanonical (path : String) (cycle : CyclicReference)
  | notCompared (cycle : CyclicReference)
  | directoryNotCreated (path : String) (fault : FileFault)
  | fileNotWritten (path : String) (fault : FileFault)

namespace Failure

/-- The wording of a failure: what was being done, and then what went wrong. -/
def message : Failure → String
  | .usage fault => fault.message
  | .schemaUnreadable path fault =>
      "failed to read schema file " ++ path ++ ": " ++ fault.message
  | .schemaInvalid path fault =>
      "failed to load schema " ++ path ++ ": " ++ fault.message ++
        match fault with
        | .notJson _ => ": " ++ fault.detail
        | .malformed => ""
  | .inputInvalid pattern fault =>
      "failed to resolve input file paths: invalid glob pattern " ++ pattern ++ ": " ++
        fault.message
  | .inputMissing pattern =>
      "failed to resolve input file paths: glob pattern matched no files: " ++ pattern
  | .documentUnreadable path fault =>
      "failed to read source file " ++ path ++ ": " ++ fault.message
  | .documentNotJson path fault =>
      "failed to parse JSON source file " ++ path ++ ": " ++ fault.message
  | .documentNotYaml path fault =>
      "failed to parse YAML source file " ++ path ++ ": " ++ fault.message
  | .pointerUnmatched pointer path =>
      "JSON pointer " ++ pointer ++ " selects nothing in " ++ path
  | .notGenerated path cycle =>
      "failed to generate source for " ++ path ++ ": " ++ cycle.message
  | .notCanonical path cycle => "failed to canonicalize " ++ path ++ ": " ++ cycle.message
  | .notCompared cycle => cycle.message
  | .directoryNotCreated path fault => "failed to create " ++ path ++ ": " ++ fault.message
  | .fileNotWritten path fault => "failed to write " ++ path ++ ": " ++ fault.message

end Failure

/-! ## Outcomes -/

/-- The exit status of a run, what it prints and what it reports beside that. -/
structure Outcome where
  status : Nat
  output : String
  reports : List String
deriving DecidableEq, Repr

namespace Outcome

/-- A run that prints something and goes well. -/
def success (output : String) : Outcome := ⟨0, output, []⟩

/-- The report of a failure. -/
def errorReport (failure : Failure) : String := "error: " ++ failure.message

/-- A run that stops at a failure after it has printed something. -/
def failed (output : String) (failure : Failure) : Outcome :=
  ⟨2, output, [errorReport failure]⟩

/-- The outcome with reports in front of its own. -/
def after (outcome : Outcome) (reports : List String) : Outcome :=
  { outcome with reports := reports ++ outcome.reports }

end Outcome

/-- The report of a pattern that is left out of a schema. -/
def RejectedPattern.report (rejected : RejectedPattern) : String :=
  "warning: unsupported pattern; skipped pattern=" ++ rejected.source ++ " err=" ++
    (if rejected.fault = .tooBig then "" else "regex parse error:\nerror: ") ++
    rejected.fault.message

namespace Program

/-- The name of the program with its version. -/
def version : String := "pipeline-dsl 0.1.0\n"

/-- How the program is used. -/
def usage : String :=
  String.join
    ["Usage: pipeline-dsl [OPTIONS] <COMMAND>\n\n",
      "Commands:\n",
      "  emit          --schema <SCHEMA> --input <INPUT>... [--json-pointer <JSON_POINTER>]\n",
      "                [--out-dir <OUT_DIR>] [--module <MODULE>] [--indent <INDENT>]\n",
      "  canonicalize  --schema <SCHEMA> --input <INPUT>... [--json-pointer <JSON_POINTER>]\n",
      "                [--wrapper-field <WRAPPER_FIELDS>]\n",
      "  compare       [--schema <SCHEMA>] [--wrapper-field <WRAPPER_FIELDS>]\n",
      "                [--json-pointer <JSON_POINTER>] [--json] <LEFT> <RIGHT>\n",
      "  rules         --schema <SCHEMA> [--wrapper-field <WRAPPER_FIELDS>]\n\n",
      "Options:\n",
      "  -v, --verbose\n",
      "  -h, --help\n",
      "  -V, --version\n"]

section Running

variable {m : Type → Type} [Monad m]

/-! ## Reading schemas and documents -/

/-- Turn a fault into the failure of a step. -/
def orFail {ε α : Type} (failure : ε → Failure) (result : Except ε α) : Except Failure α :=
  match result with
  | .ok value => .ok value
  | .error fault => .error (failure fault)

/-- The patterns that are left out of a schema, in the order in which they are
noticed. -/
def rejectedPatterns (source : Json) : List RejectedPattern :=
  match Form.read? source with
  | some form => form.allRejected
  | none => []

/-- The reports and the schema of a schema text. -/
def loadSchema (path text : String) : List String × Except Failure Schema :=
  match Json.read text with
  | .error fault => ([], .error (.schemaInvalid path (.notJson fault)))
  | .ok source =>
      ((rejectedPatterns source).map RejectedPattern.report,
        orFail (.schemaInvalid path) (Schema.load source))

/-- Read a schema file and go on with the schema. -/
def withSchema (files : FileAccess m) (path : String) (next : Schema → m Outcome) :
    m Outcome := do
  match ← files.readText path with
  | .error fault => return .failed "" (.schemaUnreadable path fault)
  | .ok text =>
      let (reports, schema) := loadSchema path text
      match schema with
      | .error failure => return (Outcome.failed "" failure).after reports
      | .ok schema => return (← next schema).after reports

/-- Is a file read as YAML? -/
def isYaml (path : String) : Bool :=
  FileName.extension? path == some "yml" || FileName.extension? path == some "yaml"

/-- The document in a text, which is YAML or JSON as the path says. -/
def parseDocument (path text : String) : Except Failure Json :=
  if isYaml path then orFail (.documentNotYaml path) (Yaml.read text)
  else orFail (.documentNotJson path) (Json.read text)

/-- The part of a document that a pointer selects, or all of it. -/
def selectPart (path : String) (pointer : Option String) (document : Json) :
    Except Failure Json :=
  match pointer with
  | none => .ok document
  | some pointer =>
      match document.pointer? pointer with
      | some part => .ok part
      | none => .error (.pointerUnmatched pointer path)

/-- Read a document. -/
def loadDocument (files : FileAccess m) (path : String) (pointer : Option String) :
    m (Except Failure Json) := do
  match ← files.readText path with
  | .error fault => return .error (.documentUnreadable path fault)
  | .ok text => return (parseDocument path text).bind (selectPart path pointer)

/-- The paths that an input stands for. -/
def inputPaths (files : FileAccess m) (input : String) : m (Except Failure (List String)) := do
  if input.toList.any Wildcard.isSpecial then
    match ← Wildcard.expand files input with
    | .error fault => return .error (.inputInvalid input fault)
    | .ok [] => return .error (.inputMissing input)
    | .ok paths => return .ok paths
  else return .ok [input]

/-- Do something for each element up to the first failure. -/
def forEach {α β : Type} (action : α → m (Except Failure β)) :
    List α → m (Except Failure (List β))
  | [] => return .ok []
  | first :: rest => do
      match ← action first with
      | .error failure => return .error failure
      | .ok result =>
          match ← forEach action rest with
          | .error failure => return .error failure
          | .ok results => return .ok (result :: results)

/-- Find the documents of a selection and go on with their paths. -/
def withPaths (files : FileAccess m) (selection : DocumentSelection)
    (next : List String → m Outcome) : m Outcome := do
  match ← forEach (inputPaths files) selection.inputs with
  | .error failure => return .failed "" failure
  | .ok paths => next paths.flatten

/-! ## Generating source -/

/-- The settings of the emitter. -/
def emitterConfig (module : Option String) (indent : Option Nat) : EmitterConfig :=
  { EmitterConfig.standard with
    module := module.getD EmitterConfig.standard.module
    indentWidth := indent.getD EmitterConfig.standard.indentWidth }

/-- The source that is generated for the document at a path. -/
def generateFrom (files : FileAccess m) (schema : Schema) (pointer : Option String)
    (config : EmitterConfig) (path : String) : m (Except Failure (String × String)) := do
  match ← loadDocument files path pointer with
  | .error failure => return .error failure
  | .ok document =>
      return (orFail (.notGenerated path) (generate document schema config)).map
        fun source => (path, source)

/-- The path of the file that is written for a document: the stem of its own name
in another directory. -/
def targetPath (directory path : String) : String :=
  FileName.join directory ((FileName.stem? path).getD "pipeline" ++ ".ts")

/-- Write a generated file. -/
def writeSource (files : FileAccess m) (directory : String) (generated : String × String) :
    m (Except Failure Unit) := do
  let target := targetPath directory generated.1
  return orFail (.fileNotWritten target) (← files.writeText target generated.2)

/-- Write the generated files into a directory, which is created first. -/
def writeSources (files : FileAccess m) (directory : String)
    (generated : List (String × String)) : m Outcome := do
  match ← if directory.isEmpty then pure (.ok ()) else files.createDirectories directory with
  | .error fault => return .failed "" (.directoryNotCreated directory fault)
  | .ok () =>
      match ← forEach (writeSource files directory) generated with
      | .error failure => return .failed "" failure
      | .ok _ => return .success ""

/-- The generated sources one after another.  A comment names the document of each
when there are several. -/
def printSources (generated : List (String × String)) : String :=
  String.join (generated.map fun (path, source) =>
    (if 1 < generated.length then "// " ++ path ++ "\n" else "") ++ source)

/-- Generate source for documents. -/
def emit (files : FileAccess m) (schema : Schema) (selection : DocumentSelection)
    (directory : Option String) (config : EmitterConfig) : m Outcome :=
  withPaths files selection fun paths => do
    match ← forEach (generateFrom files schema selection.pointer config) paths with
    | .error failure => return .failed "" failure
    | .ok generated =>
        match directory with
        | some directory => writeSources files directory generated
        | none => return .success (printSources generated)

/-! ## Canonical documents -/

/-- The fields that scalars may be wrapped under. -/
def wrapperFieldsOr (given : List String) : List String :=
  if given.isEmpty then standardWrapperFields else given

/-- Print the canonical forms of documents up to the first failure. -/
def printCanonical (files : FileAccess m) (schema : Schema) (wrapperFields : List String)
    (pointer : Option String) : String → List String → m Outcome
  | printed, [] => return .success printed
  | printed, path :: rest => do
      match ← loadDocument files path pointer with
      | .error failure => return .failed printed failure
      | .ok document =>
          match Canonical.canonicalize document schema wrapperFields with
          | .error cycle => return .failed printed (.notCanonical path cycle)
          | .ok canonical =>
              printCanonical files schema wrapperFields pointer
                (printed ++ canonical.pretty ++ "\n") rest

/-- Print the canonical forms of documents. -/
def canonicalize (files : FileAccess m) (schema : Schema) (wrapperFields : List String)
    (selection : DocumentSelection) : m Outcome :=
  withPaths files selection (printCanonical files schema wrapperFields selection.pointer "")

/-! ## Comparing documents -/

/-- The text of a comparison of two documents. -/
def comparisonText (left right : String) (comparison : Comparison) : String :=
  String.join
    ([if comparison.equivalent then "equivalent\n" else "different\n",
      "  ", left, " ", comparison.leftDigest, "\n",
      "  ", right, " ", comparison.rightDigest, "\n"] ++
      match comparison.difference with
      | some (leftText, rightText) =>
          ["--- ", left, "\n", leftText, "\n", "+++ ", right, "\n", rightText, "\n"]
      | none => [])

/-- Compare two documents; the exit status tells whether they differ. -/
def compare (files : FileAccess m) (comparer : Comparer) (pointer : Option String)
    (asJson : Bool) (left right : String) : m Outcome := do
  match ← loadDocument files left pointer with
  | .error failure => return .failed "" failure
  | .ok leftDocument =>
      match ← loadDocument files right pointer with
      | .error failure => return .failed "" failure
      | .ok rightDocument =>
          match comparer.compare leftDocument rightDocument with
          | .error cycle => return .failed "" (.notCompared cycle)
          | .ok comparison =>
              let text :=
                if asJson then comparison.toJson.pretty ++ "\n"
                else comparisonText left right comparison
              return ⟨if comparison.equivalent then 0 else 1, text, []⟩

/-! ## Commands -/

/-- Run a command. -/
def runCommand (files : FileAccess m) : Command → m Outcome
  | .emit schemaPath selection directory module indent =>
      withSchema files schemaPath fun schema =>
        emit files schema selection directory (emitterConfig module indent)
  | .canonicalize schemaPath wrapperFields selection =>
      withSchema files schemaPath fun schema =>
        canonicalize files schema (wrapperFieldsOr wrapperFields) selection
  | .compare (some schemaPath) wrapperFields pointer asJson left right =>
      withSchema files schemaPath fun schema =>
        let rules := schema.deriveRules (wrapperFieldsOr wrapperFields)
        compare files ((Comparer.ofSchema schema).withRules rules) pointer asJson left right
  | .compare none _ pointer asJson left right =>
      compare files Comparer.withoutSchema pointer asJson left right
  | .rules schemaPath wrapperFields =>
      withSchema files schemaPath fun schema =>
        return .success
          ((schema.deriveRules (wrapperFieldsOr wrapperFields)).toJson.pretty ++ "\n")

/-- Run the program with its arguments. -/
def run (files : FileAccess m) (arguments : List String) : m Outcome :=
  match Command.read arguments with
  | .ok command => runCommand files command
  | .error (.fault fault) => return .failed "" (.usage fault)
  | .error .noArguments => return ⟨2, "", [usage]⟩
  | .error .help => return .success usage
  | .error .version => return .success version

end Running

/-- Run the program on files in memory: the outcome and the files afterwards. -/
def runOn (tree : FileTree) (arguments : List String) : Outcome × FileTree :=
  (run FileTree.access arguments).run tree

end Program

end Pipewright
