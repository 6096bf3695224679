import Pipewright.Builder.Naming
import Pipewright.Builder.Source
import Pipewright.Expression
import Pipewright.Json.Text
import Pipewright.Walk.Traversal

/-!
# Emitting builder source

The emitter is an observer that writes one builder call per property.  The form
of a call follows the value that was authored: a string with expressions becomes
a call of the expression helper or a template literal, an array without objects
and arrays stays on one line, an object becomes a chain of calls.  A value that
no node applies to is written as a JSON literal.

What leaving a node has to write is kept on a stack of closers, innermost first.
-/

namespace Pipewright

/-- The names that generated source uses, and its indentation. -/
structure EmitterConfig where
  module : String
  rootFactory : String
  nodeFactory : String
  expressionHelper : String
  indentWidth : Nat
deriving DecidableEq, Repr

namespace EmitterConfig

/-- The names of the builder library and two blanks per level. -/
def standard : EmitterConfig :=
  ⟨"@pipeline-dsl/builder", "pipeline", "node", "expr", 2⟩

end EmitterConfig

/-- What leaving a node has to write.  An inline array is written as a whole when
all its parts are known; an emitted value has been written already. -/
inductive Closer where
  | root
  | call
  | arrayCall
  | element
  | nestedArray
  | inlineArray (before after : List Char) (parts : List (List Char))
  | emitted
deriving DecidableEq, Repr

/-- The source so far, the open closers, and which helpers it needs. -/
structure Emitter where
  config : EmitterConfig
  source : Source
  closers : List Closer
  usesNode : Bool
  usesExpression : Bool
deriving DecidableEq, Repr

namespace Emitter

/-- An emitter that has written nothing. -/
def start (config : EmitterConfig) : Emitter :=
  ⟨config, Source.empty config.indentWidth, [], false, false⟩

/-! ## Literals -/

/-- Template text: backslashes, backquotes and dollar signs before a brace are
escaped. -/
def escapeTemplate : List Char → List Char
  | [] => []
  | '\\' :: rest => '\\' :: '\\' :: escapeTemplate rest
  | '\x60' :: rest => '\\' :: '\x60' :: escapeTemplate rest
  | '$' :: '\x7b' :: rest => '\\' :: '$' :: '\x7b' :: escapeTemplate rest
  | character :: rest => character :: escapeTemplate rest

/-- A call of the expression helper on the body of an expression. -/
def expressionCall (config : EmitterConfig) (body : List Char) : List Char :=
  config.expressionHelper.toList ++ '(' :: Json.quoteChars body ++ [')']

/-- A segment inside a template literal. -/
def templateSegment (config : EmitterConfig) : Segment → List Char
  | .text content => escapeTemplate content
  | .expression body => '$' :: '\x7b' :: expressionCall config body ++ ['\x7d']

/-- The literal for a string. -/
def stringLiteral (config : EmitterConfig) (text : List Char) : List Char :=
  if !containsExpression text then Json.quoteChars text
  else
    match wholeExpression? text with
    | some body => expressionCall config body
    | none => '\x60' :: (segments text).flatMap (templateSegment config) ++ ['\x60']

/-- The literal for a value that is neither an object nor an array, when a node
applies to it. -/
def scalarLiteral (config : EmitterConfig) : Json → List Char
  | .string text => stringLiteral config text.toList
  | other => other.compactChars

/-- Does the literal for the value call the expression helper? -/
def callsHelper : Json → Bool
  | .string text => containsExpression text.toList
  | _ => false

/-- Can the value stand in an array on one line? -/
def isInline (value : Json) : Bool :=
  value.isScalar

/-- The beginning of the call for a property. -/
def callStart (key : String) : List Char :=
  match methodFor? key with
  | some method => '.' :: method.toList ++ ['(']
  | none => ".set(".toList ++ Json.quoteChars key.toList ++ [',', ' ']

/-! ## Steps -/

/-- Write a line. -/
def writeLine (emitter : Emitter) (line : List Char) : Emitter :=
  { emitter with source := emitter.source.pushLine line }

/-- Put a closer on the stack. -/
def open_ (emitter : Emitter) (closer : Closer) : Emitter :=
  { emitter with closers := closer :: emitter.closers }

/-- Write a line and indent what follows until the closer is taken. -/
def openIndented (emitter : Emitter) (line : List Char) (closer : Closer) : Emitter :=
  { emitter with
    source := (emitter.source.pushLine line).indent
    closers := closer :: emitter.closers }

/-- Note that the literal for a value has been written. -/
def noteLiteral (emitter : Emitter) (value : Json) : Emitter :=
  { emitter with usesExpression := emitter.usesExpression || callsHelper value }

/-- Open a chain of calls. -/
def openNode (emitter : Emitter) (line : List Char) (closer : Closer) : Emitter :=
  { emitter.openIndented line closer with usesNode := true }

/-- A call of the node factory. -/
def nodeCall (emitter : Emitter) : List Char :=
  emitter.config.nodeFactory.toList ++ ['(', ')']

/-- Enter a node.  Only an object can stand at the root as a chain of calls. -/
def enter (emitter : Emitter) (context : Context) : Emitter × Flow :=
  if context.isRoot then
    let root := "export default ".toList ++ emitter.config.rootFactory.toList
    match context.shape with
    | .object => (emitter.openIndented (root ++ ['(', ')']) .root, .continue)
    | _ =>
        (emitter.openIndented (root ++ '(' :: context.value.compactChars ++ [')']) .root, .stop)
  else
    match emitter.closers with
    | .emitted :: _ => (emitter, .stop)
    | _ => (emitter, .continue)

/-- Take the innermost closer and write what it says. -/
def leave (emitter : Emitter) (_context : Context) : Emitter :=
  match emitter.closers with
  | [] => emitter
  | closer :: rest =>
      let source :=
        match closer with
        | .root => (emitter.source.pushLine ".build();".toList).dedent
        | .call => emitter.source.dedent.append [')']
        | .arrayCall => emitter.source.dedent.pushLine [']', ')']
        | .element => emitter.source.dedent.append [',']
        | .nestedArray => emitter.source.dedent.pushLine [']', ',']
        | .inlineArray before after parts =>
            emitter.source.pushLine
              (before ++ '[' :: List.intercalate [',', ' '] parts ++ ']' :: after)
        | .emitted => emitter.source
      { emitter with source := source, closers := rest }

/-- Visit a property: begin its call, or write it in full. -/
def property (emitter : Emitter) (context : Context) : Emitter × Flow :=
  match context.propertyName? with
  | none => (emitter, .stop)
  | some key =>
      let call := callStart key
      match context.shape, context.value with
      | .opaqueValue, value => (emitter.writeLine (call ++ value.compactChars ++ [')']), .stop)
      | _, .object _ => (emitter.openNode (call ++ emitter.nodeCall) .call, .continue)
      | _, .array items =>
          if items.all isInline then (emitter.open_ (.inlineArray call [')'] []), .continue)
          else (emitter.openIndented (call ++ ['[']) .arrayCall, .continue)
      | _, value =>
          ((emitter.writeLine (call ++ scalarLiteral emitter.config value ++ [')'])).noteLiteral
            value, .stop)

/-- Visit an element of an array on one line: it becomes a part of it. -/
def inlineItem (emitter : Emitter) (context : Context) (before after : List Char)
    (parts : List (List Char)) (rest : List Closer) : Emitter :=
  match context.shape with
  | .opaqueValue =>
      let part := context.value.compactChars
      { emitter with closers := .emitted :: .inlineArray before after (parts ++ [part]) :: rest }
  | _ =>
      let part := scalarLiteral emitter.config context.value
      { emitter with
        closers := .emitted :: .inlineArray before after (parts ++ [part]) :: rest }.noteLiteral
          context.value

/-- Visit an element of an array with an element per line. -/
def lineItem (emitter : Emitter) (context : Context) : Emitter :=
  match context.shape, context.value with
  | .opaqueValue, value => (emitter.writeLine (value.compactChars ++ [','])).open_ .emitted
  | _, .object _ => emitter.openNode emitter.nodeCall .element
  | _, .array items =>
      if items.all isInline then emitter.open_ (.inlineArray [] [','] [])
      else emitter.openIndented ['['] .nestedArray
  | _, value =>
      ((emitter.writeLine (scalarLiteral emitter.config value ++ [','])).open_ .emitted).noteLiteral
        value

/-- Visit an element of an array. -/
def item (emitter : Emitter) (context : Context) (_position : Nat) : Emitter :=
  match emitter.closers with
  | .inlineArray before after parts :: rest => emitter.inlineItem context before after parts rest
  | _ => emitter.lineItem context

/-- The emitter as an observer. -/
def observer : Observer Emitter where
  enter := enter
  leave := leave
  property := property
  item := item

/-! ## Documents -/

/-- Write a document.  After a failure, what was written before it stays. -/
def emit (emitter : Emitter) (document : Json) (schema : Schema) : Walk.Outcome Emitter :=
  walk document schema observer emitter

/-- The helpers that the source uses. -/
def helpers (emitter : Emitter) : List String :=
  emitter.config.rootFactory ::
    (if emitter.usesNode then [emitter.config.nodeFactory] else []) ++
    (if emitter.usesExpression then [emitter.config.expressionHelper] else [])

/-- The import line. -/
def header (emitter : Emitter) : List Char :=
  "import \x7b ".toList ++ (String.intercalate ", " emitter.helpers).toList ++
    " \x7d from ".toList ++ Json.quoteChars emitter.config.module.toList ++ [';', '\n']

/-- The import line and, after an empty line, what was written. -/
def chars (emitter : Emitter) : List Char :=
  if emitter.source.isEmpty then emitter.header
  else emitter.header ++ '\n' :: emitter.source.chars

/-- The import line and, after an empty line, what was written. -/
def text (emitter : Emitter) : String :=
  String.ofList emitter.chars

end Emitter

/-- Generate builder source for a document. -/
def generate (document : Json) (schema : Schema) (config : EmitterConfig) : Resolved String :=
  match (Emitter.start config).emit document schema with
  | (emitter, .ok ()) => .ok emitter.text
  | (_, .error cycle) => .error cycle

end Pipewright
