import Pipewright.Builder.Naming
import Pipewright.Json.Reader
import Pipewright.Unicode.Blank

/-!
# Replaying builder source

Just enough of the builder library to evaluate generated source: chains of calls,
arrays, expressions, template literals and JSON literals.  A reading gives what was
read and the text after it, or nothing where the source is not as expected.

JSON literals are left to a reader of their own.
-/

namespace Pipewright

/-- Reads JSON literals: a literal that delimits itself from the front of a text, and
a bare one that is the whole text. -/
structure LiteralReader where
  delimited : List Char → Option (Json × List Char)
  bare : List Char → Option Json

/-- The document reader as a reader of literals. -/
def LiteralReader.ofDocuments : LiteralReader where
  delimited text := (JsonReader.readValue JsonReader.depthLimit text).toOption
  bare text := (JsonReader.readDocument text).toOption

namespace Replay

/-- The text after its leading blanks. -/
def skip (text : List Char) : List Char :=
  text.dropWhile isBlank

theorem skip_length_le (text : List Char) : (skip text).length ≤ text.length :=
  (List.dropWhile_suffix _).length_le

/-- Does the token come next? -/
def startsWith (token : String) (text : List Char) : Bool :=
  token.toList.isPrefixOf (skip text)

/-- The text after the token, if the token comes next. -/
def eat? (token : String) (text : List Char) : Option (List Char) :=
  if startsWith token text then some ((skip text).drop token.length) else none

/-- The text after the first semicolon. -/
def afterSemicolon? : List Char → Option (List Char)
  | [] => none
  | ';' :: rest => some rest
  | _ :: rest => afterSemicolon? rest

/-- The name of a method. -/
def identifier (text : List Char) : List Char × List Char :=
  (skip text).span Naming.continuesIdentifier

/-- Does a bare literal end before this character? -/
def endsBare (character : Char) : Bool :=
  character == ',' || character == ')' || character == ']' || character == ' ' ||
    character == '\n'

/-- A JSON literal. -/
def literal (reader : LiteralReader) (text : List Char) : Option (Json × List Char) :=
  match skip text with
  | '"' :: rest => reader.delimited ('"' :: rest)
  | '[' :: rest => reader.delimited ('[' :: rest)
  | '\x7b' :: rest => reader.delimited ('\x7b' :: rest)
  | text =>
      let (word, rest) := text.span fun character => !endsBare character
      (reader.bare word).map fun value => (value, rest)

/-- A JSON literal that is a string. -/
def stringLiteral (reader : LiteralReader) (text : List Char) : Option (String × List Char) := do
  match ← literal reader text with
  | (.string content, rest) => some (content, rest)
  | _ => none

/-- An expression with the given body. -/
def expressionText (body : String) : List Char :=
  "$\x7b\x7b ".toList ++ body.toList ++ " \x7d\x7d".toList

/-- The rest of a call of the expression helper. -/
def expressionCall (reader : LiteralReader) (text : List Char) :
    Option (List Char × List Char) := do
  let (body, rest) ← stringLiteral reader text
  let rest ← eat? ")" rest
  some (expressionText body, rest)

/-- The text a reading goes on with: it has to be shorter than the text it began
with, or the reading would never end. -/
def advance? (text rest : List Char) : Option { rest : List Char // rest.length < text.length } :=
  if shorter : rest.length < text.length then some ⟨rest, shorter⟩ else none

/-- The rest of a template literal.  A backslash stands for the character behind it. -/
def template (reader : LiteralReader) (text : List Char) : Option (List Char × List Char) :=
  match text with
  | [] => none
  | '\x60' :: rest => some ([], rest)
  | '$' :: '\x7b' :: inside => do
      let rest ← eat? "expr(" inside
      let (expression, rest) ← expressionCall reader rest
      let rest ← eat? "\x7d" rest
      let onward ← advance? inside rest
      let (content, rest) ← template reader onward.val
      some (expression ++ content, rest)
  | '\\' :: [] => none
  | '\\' :: character :: rest => do
      let (content, rest) ← template reader rest
      some (character :: content, rest)
  | character :: rest => do
      let (content, rest) ← template reader rest
      some (character :: content, rest)
termination_by text.length

/-- The document key of a call: `set` is given it, other methods are named after
it. -/
def callKey (reader : LiteralReader) (method : String) (text : List Char) :
    Option (String × List Char) :=
  if method = "set" then do
    let (key, rest) ← stringLiteral reader text
    let rest ← eat? "," rest
    some (key, rest)
  else some (documentKey method, text)

mutual

/-- A call of a factory: with an argument it is that value, and without one it is the
object that the calls after it build. -/
def chain (reader : LiteralReader) (factory : String) (text : List Char) :
    Option (Json × List Char) := do
  let rest ← eat? factory text
  let rest ← eat? "(" rest
  match eat? ")" rest with
  | some rest =>
      let onward ← advance? (skip text) rest
      let (members, rest) ← calls reader [] onward.val
      some (.object members, rest)
  | none =>
      let onward ← advance? (skip text) rest
      let (content, rest) ← value reader onward.val
      let rest ← eat? ")" rest
      some (content, rest)
termination_by 3 * text.length
decreasing_by
  all_goals
    have trimmed := skip_length_le text
    omega

/-- The calls of a chain up to the one that builds it. -/
def calls (reader : LiteralReader) (members : Members) (text : List Char) :
    Option (Members × List Char) :=
  if startsWith ".build(" text then some (members, skip text)
  else
    match eat? "." text with
    | none => some (members, skip text)
    | some rest => do
        let (method, rest) := identifier rest
        let rest ← eat? "(" rest
        let (key, rest) ← callKey reader (String.ofList method) rest
        let onward ← advance? (skip text) rest
        let (content, rest) ← value reader onward.val
        let rest ← eat? ")" rest
        let onward ← advance? (skip text) rest
        calls reader (putEntry members key content) onward.val
termination_by 3 * text.length
decreasing_by
  all_goals
    have trimmed := skip_length_le text
    omega

/-- A value. -/
def value (reader : LiteralReader) (text : List Char) : Option (Json × List Char) :=
  if startsWith "node(" text then chain reader "node" text
  else
    match eat? "expr(" text with
    | some rest => do
        let (expression, rest) ← expressionCall reader rest
        some (.string (String.ofList expression), rest)
    | none =>
        match eat? "\x60" text with
        | some rest => do
            let (content, rest) ← template reader rest
            some (.string (String.ofList content), rest)
        | none =>
            match eat? "[" text with
            | some rest => do
                let onward ← advance? (skip text) rest
                let (elements, rest) ← items reader onward.val
                some (.array elements, rest)
            | none => literal reader text
termination_by 3 * text.length + 1
decreasing_by
  all_goals
    have trimmed := skip_length_le text
    omega

/-- The elements of an array up to its bracket; commas between them may be missing. -/
def items (reader : LiteralReader) (text : List Char) : Option (List Json × List Char) :=
  match eat? "]" text with
  | some rest => some ([], rest)
  | none => do
      let (element, rest) ← value reader text
      let onward ← advance? (skip text) ((eat? "," rest).getD rest)
      let (elements, rest) ← items reader onward.val
      some (element :: elements, rest)
termination_by 3 * text.length + 2
decreasing_by
  all_goals
    have trimmed := skip_length_le text
    omega

end

/-- A generated program: an import, and then the pipeline that is built, up to the end
of the text. -/
def program (reader : LiteralReader) (text : List Char) : Option Json := do
  let rest ← eat? "import" text
  let rest ← afterSemicolon? rest
  let rest ← eat? "export default" rest
  let (root, rest) ← chain reader "pipeline" rest
  let rest ← eat? ".build()" rest
  let rest ← eat? ";" rest
  if (skip rest).isEmpty then some root else none

end Replay

end Pipewright
