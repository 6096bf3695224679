import Pipewright.Pattern.Matcher
import Pipewright.Pattern.Reader

/-!
# Patterns

A pattern is a text in the language of regular expressions.  Compiling it reads
the text, applies its flags and looks up its classes.  A pattern is rejected when
it has a fault or describes too large a matcher.
-/

namespace Pipewright

namespace PatternTree

/-- The switches in force at a place of a pattern. -/
structure Flags where
  caseInsensitive : Bool
  multiLine : Bool
  dotMatchesNewline : Bool
  unicode : Bool
  carriageReturn : Bool

/-- Only characters are in use at the beginning. -/
def Flags.start : Flags :=
  ⟨false, false, false, true, false⟩

/-- Switch some flags. -/
def Flags.change (flags : Flags) (change : FlagChange) : Flags :=
  let value (flag : Flag) (before : Bool) : Bool :=
    if change.on.contains flag then true
    else if change.off.contains flag then false
    else before
  { caseInsensitive := value .caseInsensitive flags.caseInsensitive
    multiLine := value .multiLine flags.multiLine
    dotMatchesNewline := value .dotMatchesNewline flags.dotMatchesNewline
    unicode := value .unicode flags.unicode
    carriageReturn := value .carriageReturn flags.carriageReturn }

/-- The outcome of giving meaning to a part of a pattern. -/
abbrev Meaning (α : Type) := Except PatternFault α

/-- Close a set under changes of case, where case does not count. -/
def foldCase (flags : Flags) (set : CharacterSet) : CharacterSet :=
  if !flags.caseInsensitive then set
  else if flags.unicode then .caseClosure set
  else .asciiCaseClosure set

/-- Close a set and negate it.  The complement of a set of bytes holds bytes that
are no characters. -/
def foldAndNegate (flags : Flags) (negated : Bool) (set : CharacterSet) :
    Meaning CharacterSet :=
  if negated && !flags.unicode then .error .invalidUtf8
  else .ok (CharacterSet.negateIf negated (foldCase flags set))

/-- The set of a named ASCII class. -/
def AsciiKind.set : AsciiKind → CharacterSet
  | .alnum => .points [(0x30, 0x39), (0x41, 0x5A), (0x61, 0x7A)]
  | .alpha => .points [(0x41, 0x5A), (0x61, 0x7A)]
  | .ascii => .points [(0, 0x7F)]
  | .blank => .points [(9, 9), (0x20, 0x20)]
  | .cntrl => .points [(0, 0x1F), (0x7F, 0x7F)]
  | .digit => .points [(0x30, 0x39)]
  | .graph => .points [(0x21, 0x7E)]
  | .lower => .points [(0x61, 0x7A)]
  | .print => .points [(0x20, 0x7E)]
  | .punct => .points [(0x21, 0x2F), (0x3A, 0x40), (0x5B, 0x60), (0x7B, 0x7E)]
  | .space => .points [(9, 13), (0x20, 0x20)]
  | .upper => .points [(0x41, 0x5A)]
  | .word => .points [(0x30, 0x39), (0x41, 0x5A), (0x5F, 0x5F), (0x61, 0x7A)]
  | .xdigit => .points [(0x30, 0x39), (0x41, 0x46), (0x61, 0x66)]

/-- The set of digits, blanks or word characters. -/
def PerlKind.set (flags : Flags) : PerlKind → CharacterSet
  | .digit => if flags.unicode then .digits else .asciiDigits
  | .space => if flags.unicode then .blanks else .asciiBlanks
  | .word => if flags.unicode then .words else .asciiWords

/-- The set of digits, blanks or word characters, or its complement. -/
def perlSet (flags : Flags) (negated : Bool) (kind : PerlKind) : Meaning CharacterSet :=
  if negated && !flags.unicode then .error .invalidUtf8
  else .ok (CharacterSet.negateIf negated (kind.set flags))

/-- The set of a property. -/
def PropertyQuery.set : PropertyQuery → Meaning CharacterSet
  | .named name =>
      match CharacterSet.ofName? (CharacterSet.normalizeName name) with
      | some set => .ok set
      | none => .error .propertyNotFound
  | .valued name value =>
      let name := CharacterSet.normalizeName name
      let value := CharacterSet.normalizeName value
      let found :=
        if ["gc", "generalcategory"].contains name then
          some (CharacterSet.ofCategory? value)
        else if ["sc", "script"].contains name then
          some ((Script.ofName? value).map .script)
        else if ["scx", "scriptextensions"].contains name then
          some ((Script.ofName? value).map .scriptExtension)
        else if (CharacterProperty.ofName? name).isSome ||
            CharacterSet.otherProperties.contains name then
          some none
        else none
      match found with
      | some (some set) => .ok set
      | some none => .error .propertyValueNotFound
      | none => .error .propertyNotFound

/-- The set of a property or its complement. -/
def propertySet (flags : Flags) (negated : Bool) (query : PropertyQuery) :
    Meaning CharacterSet := do
  if !flags.unicode then throw .unicodeNotAllowed
  foldAndNegate flags negated (← query.set)

/-- Check that a literal is a character, also where bytes are in use. -/
def literalCharacter (flags : Flags) (literal : Literal) : Meaning Char :=
  if !flags.unicode && literal.isByte && 0x7F < literal.character.toNat then
    .error .invalidUtf8
  else .ok literal.character

/-- The character of a literal between brackets. -/
def classCharacter (flags : Flags) (literal : Literal) : Meaning Char := do
  let character ← literalCharacter flags literal
  if !flags.unicode && 0x7F < character.toNat then throw .unicodeNotAllowed
  return character

mutual

/-- The set of a class, without the changes of case that its brackets allow. -/
def ClassTree.set (flags : Flags) : ClassTree → Meaning CharacterSet
  | .literal written => return .single (← classCharacter flags written)
  | .range first last => do
      let first ← classCharacter flags first
      let last ← classCharacter flags last
      return .between first last
  | .ascii negated kind => foldAndNegate flags negated kind.set
  | .property negated query => propertySet flags negated query
  | .perl negated kind => perlSet flags negated kind
  | .bracketed negated content => do
      foldAndNegate flags negated (← content.set flags)
  | .union items => return .unions (← ClassTree.sets flags items)
  | .combined operator left right => do
      let left := foldCase flags (← left.set flags)
      let right := foldCase flags (← right.set flags)
      match operator with
      | .intersection => return .intersection left right
      | .difference => return .intersection left (.complement right)
      | .symmetricDifference =>
          return .union (.intersection left (.complement right))
            (.intersection right (.complement left))

/-- The sets of some classes. -/
def ClassTree.sets (flags : Flags) : List ClassTree → Meaning (List CharacterSet)
  | [] => return []
  | item :: rest => do
      let set ← item.set flags
      return set :: (← ClassTree.sets flags rest)

end

/-- The characters that a dot stands for. -/
def dotSet (flags : Flags) : Meaning CharacterSet :=
  if !flags.unicode then .error .invalidUtf8
  else if flags.dotMatchesNewline then .ok .all
  else if flags.carriageReturn then .ok (.complement (.ofList ['\r', '\n']))
  else .ok (.complement (.single '\n'))

/-- The condition of an assertion. -/
def Assertion.condition (flags : Flags) (assertion : Assertion) : PlaceCondition :=
  let word : CharacterSet := if flags.unicode then .words else .asciiWords
  match assertion with
  | .startText => .startText
  | .endText => .endText
  | .startLine =>
      if !flags.multiLine then .startText
      else if flags.carriageReturn then .startLineReturn
      else .startLine
  | .endLine =>
      if !flags.multiLine then .endText
      else if flags.carriageReturn then .endLineReturn
      else .endLine
  | .boundary => .boundary word
  | .noBoundary => .noBoundary word
  | .boundaryStart => .wordStart word
  | .boundaryEnd => .wordEnd word
  | .boundaryStartHalf => .wordStartHalf word
  | .boundaryEndHalf => .wordEndHalf word

mutual

/-- The matcher of a pattern and the flags in force after it. -/
def matcher (flags : Flags) : PatternTree → Meaning (Matcher × Flags)
  | .empty => return (.empty, flags)
  | .flags change => return (.empty, flags.change change)
  | .literal written => do
      let character ← literalCharacter flags written
      return (.character (foldCase flags (.single character)), flags)
  | .dot => return (.character (← dotSet flags), flags)
  | .assertion required => return (.condition (required.condition flags), flags)
  | .property negated query =>
      return (.character (← propertySet flags negated query), flags)
  | .perl negated kind => return (.character (← perlSet flags negated kind), flags)
  | .bracketed negated content => do
      let set ← foldAndNegate flags negated (← content.set flags)
      return (.character set, flags)
  | .repetition least most body => do
      let (body, flags) ← body.matcher flags
      return (.repeated least most body, flags)
  | .group change body => do
      let inner := (change.map flags.change).getD flags
      let (body, _) ← body.matcher inner
      return (body, flags)
  | .alternation branches => do
      let (branches, flags) ← matchers flags branches
      return (.choice branches, flags)
  | .concatenation parts => do
      let (parts, flags) ← matchers flags parts
      return (.sequence parts, flags)

/-- The matchers of some patterns; flags carry over from one to the next. -/
def matchers (flags : Flags) : List PatternTree → Meaning (List Matcher × Flags)
  | [] => return ([], flags)
  | tree :: rest => do
      let (first, flags) ← tree.matcher flags
      let (others, flags) ← matchers flags rest
      return (first :: others, flags)

end

end PatternTree

namespace CharacterSet

/-- An estimate of the bytes that a compiled set takes. -/
def weight : CharacterSet → Nat
  | .points ranges => 32 + 8 * ranges.length
  | .categories labels => 1024 * labels.length
  | .script _ => 512
  | .scriptExtension _ => 512
  | .union left right => left.weight + right.weight
  | .intersection left right => left.weight + right.weight
  | .complement inner => inner.weight + 64
  | .caseClosure inner => 2 * inner.weight
  | .asciiCaseClosure inner => inner.weight + 8

end CharacterSet

namespace Matcher

mutual

/-- An estimate of the bytes that a compiled matcher takes. -/
def weight : Matcher → Nat
  | .empty => 32
  | .character set => set.weight
  | .condition _ => 32
  | .sequence parts => weightOfAll parts
  | .choice branches => weightOfAll branches + 32
  | .repeated least most body =>
      let count := max 1 (max least (most.getD least))
      count * (body.weight + 32)

/-- The total of some matchers. -/
def weightOfAll : List Matcher → Nat
  | [] => 0
  | part :: rest => part.weight + weightOfAll rest

end

end Matcher

/-- A compiled pattern with the text it was written as. -/
structure Pattern where
  source : String
  matcher : Matcher
deriving Repr

namespace Pattern

/-- The size that compiled patterns must not exceed. -/
def weightLimit : Nat := 10 * Nat.pow 2 20

/-- Compile a pattern. -/
def compile (source : String) : Except PatternFault Pattern := do
  let tree ← PatternTree.read source
  let (matcher, _) ← tree.matcher .start
  if weightLimit < matcher.weight then throw .tooBig
  return ⟨source, matcher⟩

/-- Does the pattern match some part of the text? -/
def accepts (pattern : Pattern) (text : String) : Bool :=
  pattern.matcher.accepts text.toList.toArray

end Pattern

end Pipewright
