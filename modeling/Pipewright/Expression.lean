import Pipewright.Unicode.Blank

/-!
# Embedded expressions

A string may hold expressions between `${{` and `}}`.  Expressions are found from
the left, each as short as possible: a body ends at the first closing mark after
its opening mark, and an opening mark with no closing mark after it is text.

`decompose` cuts a string into text and bodies; everything else is said on the
result.
-/

namespace Pipewright

/-- A piece of a string: literal text or the body of an expression, without the
blanks around it. -/
inductive Segment where
  | text (content : List Char)
  | expression (body : List Char)
deriving DecidableEq, Repr

namespace Expression

/-- The mark that opens an expression. -/
def openMark : List Char := ['$', '\x7b', '\x7b']

/-- The mark that closes an expression. -/
def closeMark : List Char := ['\x7d', '\x7d']

/-- Cut a text at its first closing mark. -/
def cutAtClose? : List Char → Option (List Char × List Char)
  | '\x7d' :: '\x7d' :: rest => some ([], rest)
  | character :: rest =>
      (cutAtClose? rest).map fun (body, after) => (character :: body, after)
  | [] => none

/-- The body of an expression at the beginning of a text, and the text after the
expression. -/
def expressionAt? : List Char → Option (List Char × List Char)
  | '$' :: '\x7b' :: '\x7b' :: rest => cutAtClose? rest
  | _ => none

/-- What is left after the first closing mark is shorter than the text. -/
theorem cutAtClose?_length {text body after : List Char}
    (found : cutAtClose? text = some (body, after)) : after.length < text.length := by
  fun_induction cutAtClose? text generalizing body after with
  | case1 rest =>
      cases found
      simp only [List.length_cons]
      omega
  | case2 character rest _ inner =>
      obtain ⟨⟨body', after'⟩, cut, same⟩ := Option.map_eq_some_iff.mp found
      have shorter := inner cut
      cases same
      simp only [List.length_cons]
      omega
  | case3 => cases found

/-- What is left after an expression is shorter than the text. -/
theorem expressionAt?_length {text body after : List Char}
    (found : expressionAt? text = some (body, after)) : after.length < text.length := by
  unfold expressionAt? at found
  split at found
  · have shorter := cutAtClose?_length found
    simp only [List.length_cons]
    omega
  · cases found

/-- A string as a text followed by expression bodies, each with the text after
it. -/
structure Decomposition where
  lead : List Char
  holes : List (List Char × List Char)
deriving DecidableEq, Repr

namespace Decomposition

/-- Put a character of text in front. -/
def consText (character : Char) (decomposition : Decomposition) : Decomposition :=
  { decomposition with lead := character :: decomposition.lead }

/-- Put an expression in front. -/
def consHole (body : List Char) (decomposition : Decomposition) : Decomposition :=
  ⟨[], (body, decomposition.lead) :: decomposition.holes⟩

/-- The string that a decomposition describes. -/
def assemble (decomposition : Decomposition) : List Char :=
  decomposition.lead ++ decomposition.holes.flatMap fun (body, text) =>
    openMark ++ body ++ closeMark ++ text

/-- A non-empty text as a segment. -/
def textSegment (content : List Char) : List Segment :=
  if content.isEmpty then [] else [.text content]

/-- The segments in order, without empty texts. -/
def segments (decomposition : Decomposition) : List Segment :=
  textSegment decomposition.lead ++ decomposition.holes.flatMap fun (body, text) =>
    .expression (trimBlanks body) :: textSegment text

end Decomposition

/-- Cut a string into its text and expressions. -/
def decompose (text : List Char) : Decomposition :=
  match text with
  | [] => ⟨[], []⟩
  | character :: rest =>
      match _opened : expressionAt? (character :: rest) with
      | some (body, after) => (decompose after).consHole body
      | none => (decompose rest).consText character
termination_by text.length
decreasing_by
  · exact expressionAt?_length (by assumption)
  · simp

/-- A body with its tokens joined by single blanks and one blank on each side;
of a body without tokens a single blank is left. -/
def tidyBody (body : List Char) : List Char :=
  ' ' :: (blankTokens body).flatMap fun token => token ++ [' ']

end Expression

open Expression

/-- The text and expression segments of a string, in order. -/
def segments (text : List Char) : List Segment :=
  (decompose text).segments

/-- Does the string hold an expression? -/
def containsExpression (text : List Char) : Bool :=
  !(decompose text).holes.isEmpty

/-- The body of the expression that makes up the whole string. -/
def wholeExpression? (text : List Char) : Option (List Char) :=
  match segments text with
  | [.expression body] => some body
  | _ => none

/-- The string with the blanks inside its expressions collapsed; text outside
expressions stays as it is. -/
def tidyExpressions (text : List Char) : List Char :=
  let decomposition := decompose text
  Decomposition.assemble
    { decomposition with
      holes := decomposition.holes.map fun (body, after) => (tidyBody body, after) }

end Pipewright
