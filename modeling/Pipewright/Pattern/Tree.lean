/-!
# Pattern trees

The grammatical structure of a pattern, before flags are applied and character
properties are looked up.
-/

namespace Pipewright

namespace PatternTree

/-- The switches that a pattern can set. -/
inductive Flag where
  | caseInsensitive
  | multiLine
  | dotMatchesNewline
  | swapGreed
  | unicode
  | carriageReturn
  | ignoreBlanks
deriving DecidableEq, Repr

/-- The switches set to true, and those set to false behind a minus sign. -/
structure FlagChange where
  on : List Flag
  off : List Flag
deriving DecidableEq, Repr

/-- A character, and whether it was written as two hexadecimal digits, which
denote a byte where characters are not in use. -/
structure Literal where
  character : Char
  isByte : Bool
deriving DecidableEq, Repr

/-- Digits, blanks and word characters. -/
inductive PerlKind where
  | digit
  | space
  | word
deriving DecidableEq, Repr

/-- The classes of ASCII characters that have a name. -/
inductive AsciiKind where
  | alnum
  | alpha
  | ascii
  | blank
  | cntrl
  | digit
  | graph
  | lower
  | print
  | punct
  | space
  | upper
  | word
  | xdigit
deriving DecidableEq, Repr

/-- A property asked for by its name alone, or by name and value. -/
inductive PropertyQuery where
  | named (name : List Char)
  | valued (name value : List Char)
deriving DecidableEq, Repr

/-- How two classes are combined. -/
inductive ClassOperator where
  | intersection
  | difference
  | symmetricDifference
deriving DecidableEq, Repr

/-- What stands between brackets. -/
inductive ClassTree where
  | literal (written : Literal)
  | range (first last : Literal)
  | ascii (negated : Bool) (kind : AsciiKind)
  | property (negated : Bool) (query : PropertyQuery)
  | perl (negated : Bool) (kind : PerlKind)
  | bracketed (negated : Bool) (content : ClassTree)
  | union (items : List ClassTree)
  | combined (operator : ClassOperator) (left right : ClassTree)
deriving Repr

/-- Conditions on the place between two characters. -/
inductive Assertion where
  | startLine
  | endLine
  | startText
  | endText
  | boundary
  | noBoundary
  | boundaryStart
  | boundaryEnd
  | boundaryStartHalf
  | boundaryEndHalf
deriving DecidableEq, Repr

end PatternTree

open PatternTree

/-- A pattern as it was written. -/
inductive PatternTree where
  | empty
  | flags (change : FlagChange)
  | literal (written : Literal)
  | dot
  | assertion (required : Assertion)
  | property (negated : Bool) (query : PropertyQuery)
  | perl (negated : Bool) (kind : PerlKind)
  | bracketed (negated : Bool) (content : ClassTree)
  | repetition (least : Nat) (most : Option Nat) (body : PatternTree)
  | group (change : Option FlagChange) (body : PatternTree)
  | alternation (branches : List PatternTree)
  | concatenation (parts : List PatternTree)
deriving Repr

namespace PatternTree

mutual

/-- How deep a class nests inside its brackets. -/
def ClassTree.depth : ClassTree → Nat
  | .bracketed _ content => content.depth + 1
  | .union items => ClassTree.depthOfAll items + 1
  | .combined _ left right => max left.depth right.depth + 1
  | _ => 0

/-- The greatest depth among some classes. -/
def ClassTree.depthOfAll : List ClassTree → Nat
  | [] => 0
  | item :: rest => max item.depth (ClassTree.depthOfAll rest)

end

mutual

/-- How deep groups, classes, repetitions, sequences and alternations nest. -/
def depth : PatternTree → Nat
  | .bracketed _ content => content.depth + 1
  | .repetition _ _ body => body.depth + 1
  | .group _ body => body.depth + 1
  | .alternation branches => depthOfAll branches + 1
  | .concatenation parts => depthOfAll parts + 1
  | _ => 0

/-- The greatest depth among some patterns. -/
def depthOfAll : List PatternTree → Nat
  | [] => 0
  | tree :: rest => max tree.depth (depthOfAll rest)

end

/-- Patterns one after another; a single one stands for itself. -/
def sequence : List PatternTree → PatternTree
  | [] => .empty
  | [part] => part
  | parts => .concatenation parts

end PatternTree

end Pipewright
