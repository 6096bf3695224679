import Pipewright.Json.Basic
import Pipewright.Number.Digit

/-!
# Reading documents

The reader accepts one JSON document surrounded by blanks.  A fault names its
cause and the line and column, counted in bytes, up to which the text was read.
Containers nest at most 127 deep.
-/

namespace Pipewright

namespace JsonReader

/-- Why a text is not a JSON document. -/
inductive Cause where
  | endInList
  | endInObject
  | endInString
  | endInValue
  | expectedColon
  | expectedListCommaOrEnd
  | expectedObjectCommaOrEnd
  | expectedIdentifier
  | expectedValue
  | invalidEscape
  | invalidNumber
  | numberOutOfRange
  | controlCharacterInString
  | keyNotString
  | loneSurrogate
  | unexpectedEndOfEscape
  | trailingComma
  | trailingCharacters
  | nestedTooDeep
deriving DecidableEq, Repr

/-- The wording of a cause. -/
def Cause.message : Cause → String
  | .endInList => "EOF while parsing a list"
  | .endInObject => "EOF while parsing an object"
  | .endInString => "EOF while parsing a string"
  | .endInValue => "EOF while parsing a value"
  | .expectedColon => "expected `:`"
  | .expectedListCommaOrEnd => "expected `,` or `]`"
  | .expectedObjectCommaOrEnd => "expected `,` or `\x7d`"
  | .expectedIdentifier => "expected ident"
  | .expectedValue => "expected value"
  | .invalidEscape => "invalid escape"
  | .invalidNumber => "invalid number"
  | .numberOutOfRange => "number out of range"
  | .controlCharacterInString =>
      "control character (\\u0000-\\u001F) found while parsing a string"
  | .keyNotString => "key must be a string"
  | .loneSurrogate => "lone leading surrogate in hex escape"
  | .unexpectedEndOfEscape => "unexpected end of hex escape"
  | .trailingComma => "trailing comma"
  | .trailingCharacters => "trailing characters"
  | .nestedTooDeep => "recursion limit exceeded"

/-- A fault found before `rest`, or `ahead` bytes into it. -/
structure Fault where
  cause : Cause
  rest : List Char
  ahead : Nat

/-- The result of reading the beginning of a text: what was read and the rest. -/
abbrev Outcome (α : Type) := Except Fault (α × List Char)

/-- A fault at the place reached. -/
def fault {α : Type} (cause : Cause) (rest : List Char) : Except Fault α :=
  .error ⟨cause, rest, 0⟩

/-- A fault at the next byte, which has been looked at but not consumed. -/
def faultAtNext {α : Type} (cause : Cause) (rest : List Char) : Except Fault α :=
  .error ⟨cause, rest, 1⟩

/-- Is this a blank between tokens? -/
def isBlank (character : Char) : Bool :=
  character == ' ' || character == '\n' || character == '\t' || character == '\r'

/-- The text after its leading blanks. -/
def skipBlanks (text : List Char) : List Char :=
  text.dropWhile isBlank

/-! ## Strings -/

/-- The number of bytes of a text in UTF-8. -/
def byteCount (text : List Char) : Nat :=
  text.foldl (fun count character => count + character.utf8Size) 0

/-- Four hexadecimal digits. -/
def readHexUnit (text : List Char) : Outcome Nat :=
  match text.take 4 |>.mapM hexValue? with
  | some [a, b, c, d] => .ok (((a * 16 + b) * 16 + c) * 16 + d, text.drop 4)
  | _ =>
      if 4 ≤ byteCount (text.take 4) then .error ⟨.invalidEscape, text, 4⟩
      else .error ⟨.endInString, text, 4⟩

/-- The second half of a surrogate pair, written as another escape. -/
def readLowSurrogate (text : List Char) : Outcome Nat :=
  match text with
  | [] => fault .endInString text
  | '\\' :: [] => fault .endInString []
  | '\\' :: 'u' :: rest => readHexUnit rest
  | '\\' :: rest => faultAtNext .unexpectedEndOfEscape rest
  | _ => faultAtNext .unexpectedEndOfEscape text

/-- The character of a hexadecimal escape, after its `u`.  A surrogate counts
only as the first half of a pair. -/
def readHexEscape (text : List Char) : Except Fault (Char × List Char) := do
  let (unit, rest) ← readHexUnit text
  if 0xDC00 ≤ unit ∧ unit ≤ 0xDFFF then
    fault .loneSurrogate rest
  else if 0xD800 ≤ unit ∧ unit ≤ 0xDBFF then
    let (low, rest) ← readLowSurrogate rest
    if 0xDC00 ≤ low ∧ low ≤ 0xDFFF then
      .ok (Char.ofNat ((unit - 0xD800) * 0x400 + (low - 0xDC00) + 0x10000), rest)
    else fault .loneSurrogate rest
  else .ok (Char.ofNat unit, rest)

/-- The character of an escape, after its backslash. -/
def readEscape (text : List Char) : Outcome Char :=
  match text with
  | [] => fault .endInString text
  | '"' :: rest => .ok ('"', rest)
  | '\\' :: rest => .ok ('\\', rest)
  | '/' :: rest => .ok ('/', rest)
  | 'b' :: rest => .ok ('\x08', rest)
  | 'f' :: rest => .ok ('\x0c', rest)
  | 'n' :: rest => .ok ('\n', rest)
  | 'r' :: rest => .ok ('\r', rest)
  | 't' :: rest => .ok ('\t', rest)
  | 'u' :: rest => readHexEscape rest
  | _ => .error ⟨.invalidEscape, text, 1⟩

/-- The characters of a string, after its opening quote.  Every turn consumes a
character, so the length of the text bounds the turns. -/
def readStringLoop : Nat → List Char → List Char → Outcome String
  | 0, _, text => fault .endInString text
  | fuel + 1, taken, text =>
      match text with
      | [] => fault .endInString text
      | '"' :: rest => .ok (String.ofList taken.reverse, rest)
      | '\\' :: rest =>
          match readEscape rest with
          | .ok (character, rest) => readStringLoop fuel (character :: taken) rest
          | .error found => .error found
      | character :: rest =>
          if character.toNat < 32 then faultAtNext .controlCharacterInString text
          else readStringLoop fuel (character :: taken) rest

/-- A string, after its opening quote. -/
def readString (text : List Char) : Outcome String :=
  readStringLoop (text.length + 1) [] text

/-! ## Numbers

The leading digits are gathered in a word of 64 bits.  Digits that no longer fit
are dropped: before the point each raises the power of ten by one, behind it
they do not count.  The double is the rounded word, multiplied or divided by a
rounded power of ten, with one rounding for each of these steps.
-/

/-- The words that gather digits lie below this bound. -/
def wordBound : Nat := Nat.pow 2 64

/-- The greatest power of ten with a double of its own. -/
def greatestPower : Nat := 308

/-- The double nearest to a power of ten of at most `greatestPower`. -/
def powerOfTen (power : Nat) : Binary64 :=
  (Binary64.ofDecimal? false 1 power).getD (Binary64.zero false)

/-- Divide by `10 ^ power`, in steps of at most `10 ^ 308`. -/
def divideByPower : Nat → Binary64 → Nat → Binary64
  | 0, number, _ => number
  | fuel + 1, number, power =>
      if power ≤ greatestPower then
        (number.div? (powerOfTen power)).getD number
      else if number.isZero then number
      else
        divideByPower fuel ((number.div? (powerOfTen greatestPower)).getD number)
          (power - greatestPower)

/-- The double of a gathered word and a power of ten, or nothing when it is too
large. -/
def assemble? (negative : Bool) (word : Nat) (power : Int) : Option Binary64 := do
  let number ← Binary64.ofRatio? negative word 1
  if power < 0 then
    some (divideByPower (power.natAbs / greatestPower + 2) number power.natAbs)
  else if power ≤ greatestPower then
    number.mul? (powerOfTen power.toNat)
  else if number.isZero then some number
  else none

/-- Finish a double at the given place. -/
def finishReal (negative : Bool) (word : Nat) (power : Int) (rest : List Char) :
    Outcome Number :=
  match assemble? negative word power with
  | some number => .ok (.real number, rest)
  | none => fault .numberOutOfRange rest

/-- Powers of ten stay within 32 bits. -/
def clampPower (power : Int) : Int :=
  max (-(Nat.pow 2 31 : Int)) (min ((Nat.pow 2 31 : Int) - 1) power)

/-- Gather further digits of an exponent, or nothing when it leaves 32 bits;
then the rest starts at the digit that did not fit. -/
def gatherExponent (exponent : Nat) : List Char → Option Nat × List Char
  | [] => (some exponent, [])
  | digit :: rest =>
      if digit.isDigit then
        let next := 10 * exponent + (digit.toNat - 48)
        if Nat.pow 2 31 ≤ next then (none, rest) else gatherExponent next rest
      else (some exponent, digit :: rest)

/-- The exponent part of a number, after its `e`. -/
def readExponent (negative : Bool) (word : Nat) (power : Int) (text : List Char) :
    Outcome Number :=
  let (upwards, text) :=
    match text with
    | '+' :: rest => (true, rest)
    | '-' :: rest => (false, rest)
    | _ => (true, text)
  match text with
  | [] => fault .endInValue []
  | digit :: rest =>
      if digit.isDigit then
        match gatherExponent (digit.toNat - 48) rest with
        | (some exponent, rest) =>
            let total := if upwards then power + exponent else power - exponent
            finishReal negative word (clampPower total) rest
        | (none, rest) =>
            if word ≠ 0 ∧ upwards then fault .numberOutOfRange rest
            else .ok (.real (Binary64.zero negative), rest.dropWhile Char.isDigit)
      else .error ⟨.invalidNumber, text, 1⟩

/-- The end of a number with a fraction: an exponent or nothing. -/
def readOptionalExponent (negative : Bool) (word : Nat) (power : Int) (text : List Char) :
    Outcome Number :=
  match text with
  | 'e' :: rest => readExponent negative word power rest
  | 'E' :: rest => readExponent negative word power rest
  | _ => finishReal negative word power text

/-- Gather the digits of a fraction: the word, the number of digits taken into
it, and the rest without the digits that no longer fit. -/
def gatherFraction (word taken : Nat) : List Char → Nat × Nat × List Char
  | [] => (word, taken, [])
  | digit :: rest =>
      if digit.isDigit then
        let next := 10 * word + (digit.toNat - 48)
        if wordBound ≤ next then (word, taken, rest.dropWhile Char.isDigit)
        else gatherFraction next (taken + 1) rest
      else (word, taken, digit :: rest)

/-- The fraction of a number, after its point.  A word that is already full
leaves no room for a digit to be counted, and the number counts as complete. -/
def readFraction (negative : Bool) (word : Nat) (power : Int) (text : List Char) :
    Outcome Number :=
  match text with
  | [] => faultAtNext .endInValue text
  | digit :: _ =>
      if digit.isDigit then
        let (word, taken, rest) := gatherFraction word 0 text
        readOptionalExponent negative word (power - taken) rest
      else faultAtNext .invalidNumber text

/-- What follows the digits before the point, when they fit in a word. -/
def readNumberTail (negative : Bool) (word : Nat) (text : List Char) : Outcome Number :=
  match text with
  | '.' :: rest => readFraction negative word 0 rest
  | 'e' :: rest => readExponent negative word 0 rest
  | 'E' :: rest => readExponent negative word 0 rest
  | _ =>
      if !negative then .ok (.integer word, text)
      else if word ≠ 0 ∧ word ≤ Nat.pow 2 63 then .ok (.integer (-word), text)
      else finishReal true word 0 text

/-- What follows a full word: further digits only raise the power of ten. -/
def readLongNumber (negative : Bool) (word : Nat) (text : List Char) : Outcome Number :=
  let dropped := (text.takeWhile Char.isDigit).length
  match text.dropWhile Char.isDigit with
  | '.' :: rest => readFraction negative word dropped rest
  | rest => readOptionalExponent negative word dropped rest

/-- Gather the digits before the point. -/
def readDigits (negative : Bool) (word : Nat) : List Char → Outcome Number
  | [] => readNumberTail negative word []
  | digit :: rest =>
      if digit.isDigit then
        let next := 10 * word + (digit.toNat - 48)
        if wordBound ≤ next then readLongNumber negative word (digit :: rest)
        else readDigits negative next rest
      else readNumberTail negative word (digit :: rest)

/-- A number after its sign.  A leading zero stands alone. -/
def readNumber (negative : Bool) (text : List Char) : Outcome Number :=
  match text with
  | [] => fault .endInValue text
  | '0' :: rest =>
      if (rest.head?.map Char.isDigit).getD false then faultAtNext .invalidNumber rest
      else readNumberTail negative 0 rest
  | digit :: rest =>
      if digit.isDigit then readDigits negative (digit.toNat - 48) rest
      else .error ⟨.invalidNumber, text, 1⟩

/-! ## Values -/

/-- The remaining letters of a literal word. -/
def readWord (letters : List Char) (value : Json) (text : List Char) : Outcome Json :=
  match letters, text with
  | [], rest => .ok (value, rest)
  | _ :: _, [] => fault .endInValue []
  | letter :: letters, character :: rest =>
      if letter = character then readWord letters value rest
      else .error ⟨.expectedIdentifier, text, 1⟩

/-- The elements of a list up to its bracket.  `read` consumes at least one
character of each element, so the length of the text bounds the turns. -/
def readItems (read : List Char → Outcome Json) :
    Nat → List Json → List Char → Outcome Json
  | 0, _, text => fault .endInList text
  | fuel + 1, taken, text =>
      match skipBlanks text with
      | [] => faultAtNext .endInList []
      | ']' :: rest => .ok (.array taken.reverse, rest)
      | next :: rest =>
          if taken.isEmpty then readNext fuel taken (next :: rest)
          else if next = ',' then
            match skipBlanks rest with
            | [] => faultAtNext .endInValue []
            | ']' :: rest => faultAtNext .trailingComma (']' :: rest)
            | rest => readNext fuel taken rest
          else faultAtNext .expectedListCommaOrEnd (next :: rest)
where
  /-- One element and the elements after it. -/
  readNext (fuel : Nat) (taken : List Json) (text : List Char) : Outcome Json :=
    match read text with
    | .ok (item, rest) => readItems read fuel (item :: taken) rest
    | .error found => .error found

/-- A colon and the value behind it. -/
def readMemberValue (read : List Char → Outcome Json) (text : List Char) : Outcome Json :=
  match skipBlanks text with
  | ':' :: rest => read rest
  | [] => faultAtNext .endInObject []
  | rest => faultAtNext .expectedColon rest

/-- The members of an object up to its brace.  Of a repeated key the first
position and the last value count. -/
def readMembers (read : List Char → Outcome Json) :
    Nat → Bool → List (String × Json) → List Char → Outcome Json
  | 0, _, _, text => fault .endInObject text
  | fuel + 1, first, taken, text =>
      match skipBlanks text with
      | [] => faultAtNext .endInObject []
      | '\x7d' :: rest => .ok (.object (entriesOf taken.reverse), rest)
      | next :: rest =>
          if first then
            if next = '"' then readNext fuel taken rest
            else faultAtNext .keyNotString (next :: rest)
          else if next = ',' then
            match skipBlanks rest with
            | [] => faultAtNext .endInValue []
            | '"' :: rest => readNext fuel taken rest
            | '\x7d' :: rest => faultAtNext .trailingComma ('\x7d' :: rest)
            | rest => faultAtNext .keyNotString rest
          else faultAtNext .expectedObjectCommaOrEnd (next :: rest)
where
  /-- One member, after the quote that opens its key, and the members after it. -/
  readNext (fuel : Nat) (taken : List (String × Json)) (text : List Char) :
      Outcome Json :=
    match readString text with
    | .error found => .error found
    | .ok (key, rest) =>
        match readMemberValue read rest with
        | .ok (value, rest) => readMembers read fuel false ((key, value) :: taken) rest
        | .error found => .error found

/-- A value behind blanks; `depth` containers may still be opened around
further values. -/
def readValue : Nat → List Char → Outcome Json
  | depth, text =>
      match skipBlanks text with
      | [] => faultAtNext .endInValue []
      | 'n' :: rest => readWord ['u', 'l', 'l'] .null rest
      | 't' :: rest => readWord ['r', 'u', 'e'] (.boolean true) rest
      | 'f' :: rest => readWord ['a', 'l', 's', 'e'] (.boolean false) rest
      | '"' :: rest => (readString rest).map fun (value, rest) => (.string value, rest)
      | '-' :: rest => (readNumber true rest).map fun (value, rest) => (.number value, rest)
      | '[' :: rest =>
          match depth with
          | 0 => faultAtNext .nestedTooDeep ('[' :: rest)
          | depth + 1 => readItems (readValue depth) (rest.length + 1) [] rest
      | '\x7b' :: rest =>
          match depth with
          | 0 => faultAtNext .nestedTooDeep ('\x7b' :: rest)
          | depth + 1 => readMembers (readValue depth) (rest.length + 1) true [] rest
      | next :: rest =>
          if next.isDigit then
            (readNumber false (next :: rest)).map fun (value, rest) => (.number value, rest)
          else faultAtNext .expectedValue (next :: rest)

/-- How deep containers may nest. -/
def depthLimit : Nat := 127

/-- A value and nothing but blanks after it. -/
def readDocument (text : List Char) : Except Fault Json := do
  let (value, rest) ← readValue depthLimit text
  match skipBlanks rest with
  | [] => .ok value
  | rest => faultAtNext .trailingCharacters rest

/-! ## Places -/

/-- The line, from one, and the number of bytes since it began. -/
structure Place where
  line : Nat
  column : Nat
deriving DecidableEq, Repr

/-- The place after the given bytes. -/
def Place.after (bytes : List UInt8) : Place :=
  bytes.foldl
    (fun place byte => if byte = 10 then ⟨place.line + 1, 0⟩ else ⟨place.line, place.column + 1⟩)
    ⟨1, 0⟩

end JsonReader

/-- Why and where a text is not a JSON document. -/
structure JsonFault where
  cause : JsonReader.Cause
  place : JsonReader.Place
deriving DecidableEq, Repr

/-- The wording of a fault with its place. -/
def JsonFault.message (fault : JsonFault) : String :=
  fault.cause.message ++ " at line " ++ toString fault.place.line ++
    " column " ++ toString fault.place.column

/-- Read a text as a JSON document. -/
def Json.read (text : String) : Except JsonFault Json :=
  match JsonReader.readDocument text.toList with
  | .ok document => .ok document
  | .error found =>
      let bytes := text.toUTF8.toList
      let consumed := bytes.length - JsonReader.byteCount found.rest + found.ahead
      .error ⟨found.cause, JsonReader.Place.after (bytes.take consumed)⟩

end Pipewright
