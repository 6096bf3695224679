import Pipewright.Json.Basic

/-!
# Pointers into documents

A pointer is the empty text, which selects the whole document, or a sequence of
tokens that each follow a slash.  In a token a tilde is written `~0` and a slash
`~1`.
-/

namespace Pipewright

namespace Pointer

/-- Write a token: tildes and slashes are escaped. -/
def escapeChars (token : List Char) : List Char :=
  token.flatMap fun character =>
    if character = '~' then ['~', '0']
    else if character = '/' then ['~', '1']
    else [character]

/-- Write a token: tildes and slashes are escaped. -/
def escape (token : String) : String :=
  String.ofList (escapeChars token.toList)

/-- Replace the escape `~` followed by `mark` by the character it stands for. -/
def unescapeMark (mark replacement : Char) : List Char → List Char
  | '~' :: next :: rest =>
      if next = mark then replacement :: unescapeMark mark replacement rest
      else '~' :: unescapeMark mark replacement (next :: rest)
  | character :: rest => character :: unescapeMark mark replacement rest
  | [] => []

/-- Read a token: slashes come back first and tildes second, and any other
tilde stands for itself. -/
def unescape (token : List Char) : List Char :=
  unescapeMark '0' '~' (unescapeMark '1' '/' token)

/-- The tokens of a pointer, or nothing when a non-empty pointer does not start
with a slash. -/
def tokens? (pointer : String) : Option (List String) :=
  match pointer.toList with
  | [] => some []
  | '/' :: rest =>
      some ((rest.splitOn '/').map fun token => String.ofList (unescape token))
  | _ => none

/-- The array position that a token names: decimal digits without a sign and
without leading zeros, below `2 ^ 64`. -/
def index? (token : String) : Option Nat :=
  let digits := token.toList
  let leadingZero := digits.head? == some '0' && digits.length != 1
  if digits.isEmpty || leadingZero || !digits.all Char.isDigit then none
  else
    let index := digits.foldl (fun number digit => 10 * number + (digit.toNat - 48)) 0
    if index < Nat.pow 2 64 then some index else none

/-- One step down from a document. -/
def step? (document : Json) (token : String) : Option Json :=
  match document with
  | .object members => members.lookup token
  | .array items => (index? token).bind fun index => items[index]?
  | _ => none

end Pointer

/-- The part of a document that a pointer selects. -/
def Json.pointer? (document : Json) (pointer : String) : Option Json :=
  (Pointer.tokens? pointer).bind fun tokens => tokens.foldlM Pointer.step? document

end Pipewright
