import Pipewright.Number.Digit
import Pipewright.Pattern.Fault
import Pipewright.Pattern.Tree
import Pipewright.Unicode.Blank
import Pipewright.Unicode.Category
import Pipewright.Unicode.Property

/-!
# Reading patterns

A pattern is read from left to right, and the first fault met is the one
reported.  While blanks are ignored, blanks and comments may stand between any
two tokens.
-/

namespace Pipewright

namespace PatternReader

open PatternTree

/-- What is left to read, whether blanks are ignored, and the group names so
far. -/
structure Cursor where
  rest : List Char
  ignoresBlanks : Bool
  names : List (List Char)

/-- A step of reading. -/
abbrev Step (α : Type) := StateT Cursor (Except PatternFault) α

/-! ## Characters -/

/-- The next character, which stays unread. -/
def peek : Step (Option Char) :=
  return (← get).rest.head?

/-- The character after the next one. -/
def peekSecond : Step (Option Char) :=
  return (← get).rest[1]?

/-- Is nothing left? -/
def atEnd : Step Bool :=
  return (← get).rest.isEmpty

/-- Is this the next character? -/
def nextIs (character : Char) : Step Bool :=
  return (← get).rest.head? == some character

/-- Pass over characters. -/
def advance (count : Nat) : Step Unit :=
  modify fun cursor => { cursor with rest := cursor.rest.drop count }

/-- Pass over a text if it comes next. -/
def advanceOver (text : String) : Step Bool := do
  if text.toList.isPrefixOf (← get).rest then
    advance text.length
    return true
  return false

/-- The text after blanks and comments; a comment goes from a number sign to the
end of its line.  `comment` says that the text starts inside a comment. -/
def withoutBlanks (comment : Bool) : List Char → List Char
  | [] => []
  | character :: rest =>
      if comment then withoutBlanks (character != '\n') rest
      else if isBlank character then withoutBlanks false rest
      else if character = '#' then withoutBlanks true rest
      else character :: rest

/-- Pass over blanks and comments where they are ignored. -/
def skipBlanks : Step Unit :=
  modify fun cursor =>
    if cursor.ignoresBlanks then { cursor with rest := withoutBlanks false cursor.rest }
    else cursor

/-- Pass over a character and the blanks after it; is there more? -/
def advanceAndSkip : Step Bool := do
  advance 1
  skipBlanks
  return !(← atEnd)

/-- The character after the next one, blanks between them not counted. -/
def peekAfterBlanks : Step (Option Char) := do
  let cursor ← get
  let rest := cursor.rest.drop 1
  return (if cursor.ignoresBlanks then withoutBlanks false rest else rest).head?

/-! ## Escapes -/

/-- What a single token stands for. -/
inductive Token where
  | literal (literal : Literal)
  | assertion (assertion : Assertion)
  | dot
  | perl (negated : Bool) (kind : PerlKind)
  | property (negated : Bool) (query : PropertyQuery)

/-- A character that stands for itself. -/
def plain (character : Char) : Literal :=
  ⟨character, false⟩

/-- The character with the given hexadecimal digits. -/
def characterOf (digits : List Nat) (isByte : Bool) : Step Literal := do
  let point := digits.foldl (fun value digit => 16 * value + digit) 0
  if point < 0x110000 ∧ ¬(0xD800 ≤ point ∧ point ≤ 0xDFFF) then
    return ⟨Char.ofNat point, isByte⟩
  throw .escapeHexInvalid

/-- A fixed number of hexadecimal digits; `first` says that none was read. -/
def readHexDigits : Nat → Bool → Step (List Nat)
  | 0, _ => do
      let _ ← advanceAndSkip
      return []
  | count + 1, first => do
      unless first do
        unless ← advanceAndSkip do throw .escapeUnexpectedEnd
      match (← peek).bind hexValue? with
      | some digit => return digit :: (← readHexDigits count false)
      | none => throw .escapeHexInvalidDigit

/-- Hexadecimal digits up to a brace. -/
def readBracedHex : Nat → Step (List Nat)
  | 0 => throw .escapeUnexpectedEnd
  | fuel + 1 => do
      unless ← advanceAndSkip do throw .escapeUnexpectedEnd
      match ← peek with
      | some '\x7d' =>
          let _ ← advanceAndSkip
          return []
      | some character =>
          match hexValue? character with
          | some digit => return digit :: (← readBracedHex fuel)
          | none => throw .escapeHexInvalidDigit
      | none => throw .escapeUnexpectedEnd

/-- A character given by its number, at the letter that says how many digits
follow. -/
def readHex (letter : Char) : Step Literal := do
  unless ← advanceAndSkip do throw .escapeUnexpectedEnd
  if ← nextIs '\x7b' then
    let digits ← readBracedHex ((← get).rest.length + 1)
    if digits.isEmpty then throw .escapeHexEmpty
    characterOf digits false
  else
    let count := if letter = 'x' then 2 else if letter = 'u' then 4 else 8
    characterOf (← readHexDigits count true) (letter == 'x')

/-- The text up to a closing brace. -/
def readBracedName : Nat → Step (List Char)
  | 0 => throw .escapeUnexpectedEnd
  | fuel + 1 => do
      let more ← advanceAndSkip
      match ← peek with
      | some '\x7d' =>
          advance 1
          return []
      | some character =>
          unless more do throw .escapeUnexpectedEnd
          return character :: (← readBracedName fuel)
      | none => throw .escapeUnexpectedEnd

/-- Cut a text at the first place where `mark` stands. -/
def cutAt? (mark : List Char) : List Char → Option (List Char × List Char)
  | [] => none
  | character :: rest =>
      if mark.isPrefixOf (character :: rest) then
        some ([], (character :: rest).drop mark.length)
      else (cutAt? mark rest).map fun (before, after) => (character :: before, after)

/-- The query in braces, and whether its operator negates it. -/
def queryOf (name : List Char) : Bool × PropertyQuery :=
  match cutAt? ['!', '='] name with
  | some (name, value) => (true, .valued name value)
  | none =>
      match cutAt? [':'] name with
      | some (name, value) => (false, .valued name value)
      | none =>
          match cutAt? ['='] name with
          | some (name, value) => (false, .valued name value)
          | none => (false, .named name)

/-- A character property, at its letter `p` or `P`. -/
def readProperty (negated : Bool) : Step Token := do
  unless ← advanceAndSkip do throw .escapeUnexpectedEnd
  match ← peek with
  | some '\x7b' =>
      let name ← readBracedName ((← get).rest.length + 1)
      let (unequal, query) := queryOf name
      return .property (negated != unequal) query
  | some '\\' => throw .unicodeClassInvalid
  | some character =>
      let _ ← advanceAndSkip
      return .property negated (.named [character])
  | none => throw .escapeUnexpectedEnd

/-- Is this a character of the name of a word boundary? -/
def isBoundaryLetter (character : Char) : Bool :=
  character.isAlpha || character == '-'

/-- The letters of the name of a word boundary. -/
def readBoundaryLetters : Nat → Step (List Char)
  | 0 => return []
  | fuel + 1 => do
      match ← peek with
      | some character =>
          if isBoundaryLetter character then
            let _ ← advanceAndSkip
            return character :: (← readBoundaryLetters fuel)
          return []
      | none => return []

/-- The name of a word boundary in braces.  When no letter follows the brace it
belongs to a repetition and stays unread. -/
def readBoundaryName : Step Assertion := do
  let start ← get
  unless ← advanceAndSkip do throw .boundaryOrRepetitionUnexpectedEnd
  let isName := ((← peek).map isBoundaryLetter).getD false
  unless isName do
    set start
    return .boundary
  let name ← readBoundaryLetters ((← get).rest.length + 1)
  unless ← nextIs '\x7d' do throw .boundaryUnclosed
  advance 1
  match String.ofList name with
  | "start" => return .boundaryStart
  | "end" => return .boundaryEnd
  | "start-half" => return .boundaryStartHalf
  | "end-half" => return .boundaryEndHalf
  | _ => throw .boundaryUnrecognized

/-- May this character stand for itself behind a backslash? -/
def isEscapable (character : Char) : Bool :=
  character.toNat < 128 && !character.isAlphanum && character != '<' && character != '>'

/-- An escape, at its backslash. -/
def readEscape : Step Token := do
  advance 1
  match ← peek with
  | none => throw .escapeUnexpectedEnd
  | some character =>
      if character.isDigit then throw .unsupportedBackreference
      match character with
      | 'x' | 'u' | 'U' => return .literal (← readHex character)
      | 'p' => readProperty false
      | 'P' => readProperty true
      | _ =>
          advance 1
          if isEscapable character then return .literal (plain character)
          match character with
          | 'd' => return .perl false .digit
          | 's' => return .perl false .space
          | 'w' => return .perl false .word
          | 'D' => return .perl true .digit
          | 'S' => return .perl true .space
          | 'W' => return .perl true .word
          | 'a' => return .literal (plain '\x07')
          | 'f' => return .literal (plain '\x0c')
          | 't' => return .literal (plain '\t')
          | 'n' => return .literal (plain '\n')
          | 'r' => return .literal (plain '\r')
          | 'v' => return .literal (plain '\x0b')
          | 'A' => return .assertion .startText
          | 'z' => return .assertion .endText
          | 'B' => return .assertion .noBoundary
          | '<' => return .assertion .boundaryStart
          | '>' => return .assertion .boundaryEnd
          | 'b' =>
              if ← nextIs '\x7b' then return .assertion (← readBoundaryName)
              return .assertion .boundary
          | _ => throw .escapeUnrecognized

/-! ## Classes -/

/-- The ASCII class of a name. -/
def asciiKind? (name : String) : Option AsciiKind :=
  match name with
  | "alnum" => some .alnum
  | "alpha" => some .alpha
  | "ascii" => some .ascii
  | "blank" => some .blank
  | "cntrl" => some .cntrl
  | "digit" => some .digit
  | "graph" => some .graph
  | "lower" => some .lower
  | "print" => some .print
  | "punct" => some .punct
  | "space" => some .space
  | "upper" => some .upper
  | "word" => some .word
  | "xdigit" => some .xdigit
  | _ => none

/-- An ASCII class at the beginning of a text, such as `[:alpha:]`, and the text
after it. -/
def asciiClassAt? (text : List Char) : Option (ClassTree × List Char) :=
  match text with
  | '[' :: ':' :: rest =>
      let negated := rest.head? == some '^'
      let rest := if negated then rest.drop 1 else rest
      let name := rest.takeWhile (· != ':')
      match rest.dropWhile (· != ':') with
      | ':' :: ']' :: after =>
          (asciiKind? (String.ofList name)).map fun kind => (.ascii negated kind, after)
      | _ => none
  | _ => none

/-- Items side by side; a single one stands for itself. -/
def unionOf : List ClassTree → ClassTree
  | [item] => item
  | items => .union items

/-- The class so far on the left of an operator. -/
def combine (left : Option (ClassOperator × ClassTree)) (items : List ClassTree) : ClassTree :=
  match left with
  | none => unionOf items
  | some (operator, left) => .combined operator left (unionOf items)

/-- One token inside brackets. -/
def readClassToken : Step Token := do
  match ← peek with
  | some '\\' => readEscape
  | some character =>
      advance 1
      return .literal (plain character)
  | none => throw .classUnclosed

/-- A token as an item of a class. -/
def classItem : Token → Step ClassTree
  | .literal written => return .literal written
  | .perl negated kind => return .perl negated kind
  | .property negated query => return .property negated query
  | _ => throw .classEscapeInvalid

/-- A token as an end of a range. -/
def rangeEnd : Token → Step Literal
  | .literal written => return written
  | _ => throw .classRangeLiteral

/-- A token or a range of characters.  A minus sign before a bracket or another
minus sign does not make a range. -/
def readClassRange : Step ClassTree := do
  let first ← readClassToken
  skipBlanks
  if ← atEnd then throw .classUnclosed
  let isRange ← nextIs '-'
  let next ← peekAfterBlanks
  if !isRange || next == some ']' || next == some '-' then
    classItem first
  else
    unless ← advanceAndSkip do throw .classUnclosed
    let last ← readClassToken
    let first ← rangeEnd first
    let last ← rangeEnd last
    if last.character < first.character then throw .classRangeInvalid
    return .range first last

/-- Minus signs at the beginning of a class stand for themselves. -/
def readLeadingMinus : Nat → Step (List ClassTree)
  | 0 => return []
  | fuel + 1 => do
      unless ← nextIs '-' do return []
      unless ← advanceAndSkip do throw .classUnclosed
      return .literal (plain '-') :: (← readLeadingMinus fuel)

/-- The opening of a class: whether it is negated, and the characters that stand
for themselves only there. -/
def readClassOpening : Step (Bool × List ClassTree) := do
  unless ← advanceAndSkip do throw .classUnclosed
  let negated ← nextIs '^'
  if negated then
    unless ← advanceAndSkip do throw .classUnclosed
  let items ← readLeadingMinus ((← get).rest.length + 1)
  if items.isEmpty && (← nextIs ']') then
    unless ← advanceAndSkip do throw .classUnclosed
    return (negated, [.literal (plain ']')])
  return (negated, items)

/-- The operator at this place. -/
def operatorAt? (first second : Option Char) : Option ClassOperator :=
  match first, second with
  | some '&', some '&' => some .intersection
  | some '-', some '-' => some .difference
  | some '~', some '~' => some .symmetricDifference
  | _, _ => none

/-- The content of a class up to its closing bracket.  Every turn consumes a
character, so the length of the text bounds the turns. -/
def readClassContent :
    Nat → Option (ClassOperator × ClassTree) → List ClassTree → Step ClassTree
  | 0, _, _ => throw .classUnclosed
  | fuel + 1, left, items => do
      skipBlanks
      match ← peek with
      | none => throw .classUnclosed
      | some '[' =>
          match asciiClassAt? (← get).rest with
          | some (item, after) =>
              modify fun cursor => { cursor with rest := after }
              readClassContent fuel left (items ++ [item])
          | none =>
              let (negated, first) ← readClassOpening
              let content ← readClassContent fuel none first
              readClassContent fuel left (items ++ [.bracketed negated content])
      | some ']' =>
          advance 1
          return combine left items
      | some character =>
          match operatorAt? (some character) (← peekSecond) with
          | some operator =>
              advance 2
              readClassContent fuel (some (operator, combine left items)) []
          | none =>
              let item ← readClassRange
              readClassContent fuel left (items ++ [item])

/-- A class, at its opening bracket. -/
def readClass : Step PatternTree := do
  let (negated, items) ← readClassOpening
  let content ← readClassContent ((← get).rest.length + 1) none items
  return .bracketed negated content

/-! ## Repetitions -/

/-- The pattern that a repetition operator applies to, and the patterns before
it; patterns are given latest first. -/
def repeatable (parts : List PatternTree) : Step (PatternTree × List PatternTree) :=
  match parts with
  | [] => throw .repetitionMissing
  | .empty :: _ => throw .repetitionMissing
  | .flags _ :: _ => throw .repetitionMissing
  | part :: before => return (part, before)

/-- A question mark after a repetition operator changes only its preference. -/
def skipPreference : Step Unit := do
  if ← nextIs '?' then advance 1

/-- Decimal digits, with blanks around them. -/
def readDigits : Nat → Step (List Char)
  | 0 => return []
  | fuel + 1 => do
      match ← peek with
      | some character =>
          if character.isDigit then
            let _ ← advanceAndSkip
            return character :: (← readDigits fuel)
          return []
      | none => return []

/-- Pass over blanks, also where they are not ignored. -/
def skipAllBlanks : Step Unit :=
  modify fun cursor => { cursor with rest := cursor.rest.dropWhile isBlank }

/-- Pass over blanks and, where they are ignored, comments between them. -/
def skipTrailingBlanks : Nat → Step Unit
  | 0 => return ()
  | fuel + 1 => do
      if ((← peek).map isBlank).getD false then
        let _ ← advanceAndSkip
        skipTrailingBlanks fuel

/-- A repetition count: none when there is no digit. -/
def readCount : Step (Option Nat) := do
  skipAllBlanks
  let bound := (← get).rest.length + 1
  let digits ← readDigits bound
  skipTrailingBlanks bound
  if digits.isEmpty then return none
  let count : Nat := digits.foldl (fun value digit => 10 * value + (digit.toNat - 48)) 0
  if Nat.pow 2 32 ≤ count then throw .decimalInvalid
  return some count

/-- A repetition count as an outcome, so that a fault in it can wait for the
ones that come before it. -/
def readCountLater : Step (Except PatternFault Nat) := do
  let start ← get
  match readCount.run start with
  | .ok (some count, after) =>
      set after
      return .ok count
  | .ok (none, after) =>
      set after
      return .error .repetitionCountDecimalEmpty
  | .error found =>
      -- only the size of the number can be at fault, after all its digits
      skipAllBlanks
      let bound := start.rest.length + 1
      let _ ← readDigits bound
      skipTrailingBlanks bound
      return .error found

/-- Counts between braces, at the opening brace. -/
def readCounts : Step (Nat × Option Nat) := do
  unless ← advanceAndSkip do throw .repetitionCountUnclosed
  let least ← readCountLater
  match ← peek with
  | none => throw .repetitionCountUnclosed
  | some ',' =>
      unless ← advanceAndSkip do throw .repetitionCountUnclosed
      if ← nextIs '\x7d' then
        return (← least, none)
      else
        let least ← least
        let most ← readCountLater
        return (least, some (← most))
  | some _ =>
      let count ← least
      return (count, some count)

/-- A counted repetition, at its opening brace. -/
def readCountedRepetition (parts : List PatternTree) : Step (List PatternTree) := do
  let (part, before) ← repeatable parts
  let (least, most) ← readCounts
  unless ← nextIs '\x7d' do throw .repetitionCountUnclosed
  let _ ← advanceAndSkip
  skipPreference
  if (most.map fun most => decide (most < least)).getD false then throw .repetitionCountInvalid
  return .repetition least most part :: before

/-- A repetition with one of the operators `?`, `*` and `+`. -/
def readRepetition (least : Nat) (most : Option Nat) (parts : List PatternTree) :
    Step (List PatternTree) := do
  let (part, before) ← repeatable parts
  advance 1
  skipPreference
  return .repetition least most part :: before

/-! ## Groups -/

/-- The flag of a letter. -/
def flagOf (letter : Char) : Step Flag :=
  match letter with
  | 'i' => return .caseInsensitive
  | 'm' => return .multiLine
  | 's' => return .dotMatchesNewline
  | 'U' => return .swapGreed
  | 'u' => return .unicode
  | 'R' => return .carriageReturn
  | 'x' => return .ignoreBlanks
  | _ => throw .flagUnrecognized

/-- Flags up to a colon or a parenthesis.  `negated` says that a minus sign came
before, and `dangling` that it was the last character. -/
def readFlags : Nat → FlagChange → Bool → Bool → Step FlagChange
  | 0, _, _, _ => throw .flagUnexpectedEnd
  | fuel + 1, change, negated, dangling => do
      match ← peek with
      | none => throw .flagUnexpectedEnd
      | some character =>
          if character = ':' ∨ character = ')' then
            if dangling then throw .flagDanglingNegation
            return change
          if character = '-' then
            if negated then throw .flagRepeatedNegation
            advance 1
            if ← atEnd then throw .flagUnexpectedEnd
            readFlags fuel change true true
          else
            let flag ← flagOf character
            if change.on.contains flag || change.off.contains flag then
              throw .flagDuplicate
            advance 1
            if ← atEnd then throw .flagUnexpectedEnd
            let change :=
              if negated then { change with off := change.off ++ [flag] }
              else { change with on := change.on ++ [flag] }
            readFlags fuel change negated false

/-- Is the character a letter? -/
def isLetter (character : Char) : Bool :=
  CharacterTable.holds CharacterProperty.alphabetic character

/-- Is the character a letter or a number? -/
def isLetterOrNumber (character : Char) : Bool :=
  isLetter character || ["Nd", "Nl", "No"].contains (generalCategory character)

/-- May the character stand in a group's name? -/
def isNameCharacter (character : Char) (first : Bool) : Bool :=
  if first then character == '_' || isLetter character
  else
    character == '_' || character == '.' || character == '[' || character == ']' ||
      isLetterOrNumber character

/-- The characters of a group's name. -/
def readNameCharacters : Nat → Bool → Step (List Char)
  | 0, _ => return []
  | fuel + 1, first => do
      match ← peek with
      | none => return []
      | some '>' => return []
      | some character =>
          unless isNameCharacter character first do throw .groupNameInvalid
          advance 1
          return character :: (← readNameCharacters fuel false)

/-- A group's name up to the angle bracket after it. -/
def readName : Step Unit := do
  if ← atEnd then throw .groupNameUnexpectedEnd
  let name ← readNameCharacters ((← get).rest.length + 1) true
  if ← atEnd then throw .groupNameUnexpectedEnd
  advance 1
  if name.isEmpty then throw .groupNameEmpty
  if (← get).names.contains name then throw .groupNameDuplicate
  modify fun cursor => { cursor with names := name :: cursor.names }

/-- What an opening parenthesis starts. -/
inductive Opening where
  | flags (change : FlagChange)
  | group (change : Option FlagChange)

/-- Does the text start like an assertion on the text around it? -/
def startsLookAround (text : List Char) : Bool :=
  ["?=", "?!", "?<=", "?<!"].any fun mark => mark.toList.isPrefixOf text

/-- The opening of a group, at its parenthesis. -/
def readOpening : Step Opening := do
  advance 1
  skipBlanks
  if startsLookAround (← get).rest then throw .unsupportedLookAround
  if (← advanceOver "?P<") || (← advanceOver "?<") then
    readName
    return .group none
  else if ← advanceOver "?" then
    if ← atEnd then throw .groupUnclosed
    let change ← readFlags ((← get).rest.length + 1) ⟨[], []⟩ false false
    let isGroup ← nextIs ':'
    advance 1
    if isGroup then return .group (some change)
    if change == ⟨[], []⟩ then throw .repetitionMissing
    return .flags change
  else return .group none

/-- Whether blanks are ignored after a change of flags. -/
def ignoresBlanksAfter (change : FlagChange) (before : Bool) : Bool :=
  if change.on.contains .ignoreBlanks then true
  else if change.off.contains .ignoreBlanks then false
  else before

/-- Set whether blanks are ignored. -/
def setIgnoresBlanks (ignoresBlanks : Bool) : Step Unit :=
  modify fun cursor => { cursor with ignoresBlanks := ignoresBlanks }

/-! ## Patterns -/

/-- A token outside brackets. -/
def readToken : Step PatternTree := do
  match ← peek with
  | some '\\' =>
      match ← readEscape with
      | .literal written => return .literal written
      | .assertion condition => return .assertion condition
      | .dot => return .dot
      | .perl negated kind => return .perl negated kind
      | .property negated query => return .property negated query
  | some '.' =>
      advance 1
      return .dot
  | some '^' =>
      advance 1
      return .assertion .startLine
  | some '$' =>
      advance 1
      return .assertion .endLine
  | some character =>
      advance 1
      return .literal (plain character)
  | none => return .empty

/-- The branches before, latest first, and the parts of the last one. -/
def alternation (branches parts : List PatternTree) : PatternTree :=
  let last := PatternTree.sequence parts.reverse
  if branches.isEmpty then last else .alternation (branches.reverse ++ [last])

/-- A pattern up to a closing parenthesis, which stays unread, or the end.
`branches` and `parts` are given latest first.  Every turn consumes a character,
so the length of the text bounds the turns. -/
def readPattern : Nat → List PatternTree → List PatternTree → Step PatternTree
  | 0, branches, parts => return alternation branches parts
  | fuel + 1, branches, parts => do
      skipBlanks
      match ← peek with
      | none => return alternation branches parts
      | some ')' => return alternation branches parts
      | some '|' =>
          advance 1
          readPattern fuel (PatternTree.sequence parts.reverse :: branches) []
      | some '(' =>
          match ← readOpening with
          | .flags change =>
              setIgnoresBlanks (ignoresBlanksAfter change (← get).ignoresBlanks)
              readPattern fuel branches (.flags change :: parts)
          | .group change =>
              let before := (← get).ignoresBlanks
              setIgnoresBlanks ((change.map (ignoresBlanksAfter · before)).getD before)
              let body ← readPattern fuel [] []
              setIgnoresBlanks before
              if ← atEnd then throw .groupUnclosed
              advance 1
              readPattern fuel branches (.group change body :: parts)
      | some '[' =>
          let bracketed ← readClass
          readPattern fuel branches (bracketed :: parts)
      | some '?' => readPattern fuel branches (← readRepetition 0 (some 1) parts)
      | some '*' => readPattern fuel branches (← readRepetition 0 none parts)
      | some '+' => readPattern fuel branches (← readRepetition 1 none parts)
      | some '\x7b' => readPattern fuel branches (← readCountedRepetition parts)
      | some _ =>
          let token ← readToken
          readPattern fuel branches (token :: parts)

end PatternReader

open PatternReader in
/-- Read a whole pattern. -/
def PatternTree.read (source : String) : Except PatternFault PatternTree := do
  let start : Cursor := ⟨source.toList, false, []⟩
  let (tree, rest) ← (readPattern (2 * source.length + 2) [] []).run start
  if !rest.rest.isEmpty then throw .groupUnopened
  if PatternFault.nestLimit < tree.depth then throw .nestLimitExceeded
  return tree

end Pipewright
