import Pipewright.CommandLine.Arguments

/-!
# Commands

The program generates builder source, prints canonical documents, compares two
documents and prints the shape rules of a schema.
-/

namespace Pipewright

/-- Which documents a command works on: the paths or wildcard patterns and the
pointer to a part of each. -/
structure DocumentSelection where
  inputs : List String
  pointer : Option String
deriving DecidableEq, Repr

/-- A command with its settings. -/
inductive Command where
  | emit (schema : String) (selection : DocumentSelection) (directory module : Option String)
      (indent : Option Nat)
  | canonicalize (schema : String) (wrapperFields : List String)
      (selection : DocumentSelection)
  | compare (schema : Option String) (wrapperFields : List String) (pointer : Option String)
      (asJson : Bool) (left right : String)
  | rules (schema : String) (wrapperFields : List String)
deriving DecidableEq, Repr

/-- The wording of what is wrong with the arguments. -/
def UsageFault.message : UsageFault → String
  | .unknownCommand text => "unrecognized subcommand '" ++ text ++ "'"
  | .commandMissing => "'pipeline-dsl' requires a subcommand but one was not provided"
  | .unexpectedArgument text => "unexpected argument '" ++ text ++ "' found"
  | .unexpectedValue value label =>
      "unexpected value '" ++ value ++ "' for '" ++ label ++ "' found; no more were expected"
  | .valueMissing label => "a value is required for '" ++ label ++ "' but none was supplied"
  | .invalidCount value label fault =>
      "invalid value '" ++ value ++ "' for '" ++ label ++ "': " ++ fault.message
  | .repeated label => "the argument '" ++ label ++ "' cannot be used multiple times"
  | .argumentsMissing => "the following required arguments were not provided:"

namespace Command

/-! ## Parameters -/

/-- More messages about the work. -/
def verbose : Parameter := ⟨"verbose", some 'v', .flag, .text, false, false⟩

/-- The schema document. -/
def schema (isRequired : Bool) : Parameter :=
  ⟨"schema", some 's', .option "SCHEMA", .path, isRequired, false⟩

/-- The fields that scalars may be wrapped under. -/
def wrapperField : Parameter :=
  ⟨"wrapper-field", none, .option "WRAPPER_FIELDS", .text, false, true⟩

/-- The pointer to a part of each document. -/
def jsonPointer : Parameter :=
  ⟨"json-pointer", none, .option "JSON_POINTER", .text, false, false⟩

/-- The documents. -/
def input : Parameter := ⟨"input", some 'i', .list "INPUT", .text, true, true⟩

/-- The directory for the generated files. -/
def outDirectory : Parameter := ⟨"out-dir", none, .option "OUT_DIR", .path, false, false⟩

/-- The module that the helpers are imported from. -/
def moduleName : Parameter := ⟨"module", none, .option "MODULE", .text, false, false⟩

/-- The number of spaces for a level of indentation. -/
def indentWidth : Parameter := ⟨"indent", none, .option "INDENT", .count, false, false⟩

/-- Print a comparison as a document. -/
def asDocument : Parameter := ⟨"json", none, .flag, .text, false, false⟩

/-- One of two documents. -/
def document (placeholder : String) : Parameter :=
  ⟨placeholder, none, .positional placeholder, .path, true, false⟩

/-! ## Reading commands -/

/-- The documents that were selected. -/
def selection (given : GivenValues) : DocumentSelection :=
  ⟨given.all "input", given.first? "json-pointer"⟩

/-- A value that is known to be there. -/
def required (given : GivenValues) (name : String) : String :=
  (given.first? name).getD ""

/-- Read the arguments of a command; each command has its own parameters, and all
share one. -/
def readWith (parameters : List Parameter) (arguments : List String)
    (command : GivenValues → Command) : Except Interruption Command :=
  (readArguments (parameters ++ [verbose]) arguments).map command

/-- Read a command from its name and the arguments behind it. -/
def ofName? (name : String) (arguments : List String) :
    Option (Except Interruption Command) :=
  match name with
  | "emit" =>
      some (readWith [schema true, jsonPointer, input, outDirectory, moduleName, indentWidth]
        arguments fun given =>
          .emit (required given "schema") (selection given) (given.first? "out-dir")
            (given.first? "module")
            ((given.first? "indent").bind fun text => (readCount text).toOption))
  | "canonicalize" =>
      some (readWith [schema true, wrapperField, jsonPointer, input] arguments fun given =>
        .canonicalize (required given "schema") (given.all "wrapper-field") (selection given))
  | "compare" =>
      some (readWith
        [schema false, wrapperField, jsonPointer, asDocument, document "LEFT",
          document "RIGHT"]
        arguments fun given =>
          .compare (given.first? "schema") (given.all "wrapper-field")
            (given.first? "json-pointer") (given.has "json") (required given "LEFT")
            (required given "RIGHT"))
  | "rules" =>
      some (readWith [schema true, wrapperField] arguments fun given =>
        .rules (required given "schema") (given.all "wrapper-field"))
  | _ => none

/-- The names of the commands. -/
def names : List String := ["emit", "canonicalize", "compare", "rules"]

/-- The help for a command that is named, or for all of them. -/
def readHelp (arguments : List String) : Interruption :=
  match arguments with
  | [] => .help
  | name :: further =>
      if names.contains name then
        match further with
        | [] => .help
        | unknown :: _ => .fault (.unknownCommand unknown)
      else if name = "help" then .help
      else .fault (.unknownCommand name)

/-- An argument in front of a command that is none, once everything behind two
hyphens is taken as it stands. -/
def strayFault (isTrailing : Bool) (text : String) : UsageFault :=
  if isTrailing && (names.contains text || text == "help") then .unexpectedArgument text
  else .unknownCommand text

/-- Read the arguments in front of a command, the command and its arguments. -/
def readFrom (reader : ArgumentReader) : List String → Except Interruption Command
  | [] => do
      let _ ← reader.settle
      if reader.given.isEmpty then .error .noArguments else ArgumentReader.refuse .commandMissing
  | text :: rest =>
      match (if reader.isTrailing then none else ofName? text rest) with
      | some command => command
      | none =>
          if !reader.isTrailing && text == "help" then .error (readHelp rest)
          else
            match reader.step true (strayFault reader.isTrailing) text with
            | .ok reader => readFrom reader rest
            | .error interruption => .error interruption

/-- Read a command line. -/
def read (arguments : List String) : Except Interruption Command :=
  readFrom (ArgumentReader.start [verbose]) arguments

end Command

end Pipewright
