/-!
# Tables of character properties

A table assigns a label to every code point.  It is written as a text of runs,
each a label followed by the number of code points that carry it, from code
point zero on.  A set is written as numbers: the lengths of the runs outside and
inside it, in turn, again from code point zero on.
-/

namespace Pipewright

namespace CharacterTable

/-- Consecutive code points with one label. -/
structure Run where
  first : Nat
  last : Nat
  label : String
deriving DecidableEq, Repr

/-- The value of decimal digits. -/
def number (digits : List Char) : Nat :=
  digits.foldl (fun value digit => 10 * value + (digit.toNat - 48)) 0

/-- The runs of a text that starts at code point `first`; `width` is the length
of every label.  Each turn consumes a run, so the text bounds the turns. -/
def runsFrom (width : Nat) : Nat → Nat → List Char → List Run
  | 0, _, _ => []
  | fuel + 1, first, text =>
      let label := text.take width
      let digits := (text.drop width).takeWhile Char.isDigit
      let count := number digits
      if digits.isEmpty then []
      else
        ⟨first, first + count - 1, String.ofList label⟩ ::
          runsFrom width fuel (first + count) ((text.drop width).dropWhile Char.isDigit)

/-- The runs that a text describes. -/
def runs (width : Nat) (text : String) : List Run :=
  runsFrom width text.length 0 text.toList

/-- The label of a character. -/
def label? (table : List Run) (character : Char) : Option String :=
  (table.find? fun run => character.toNat ≤ run.last).map (·.label)

/-- Ranges of code points, first and last included. -/
abbrev Ranges := List (Nat × Nat)

/-- The ranges between alternating lengths, from code point `first` on. -/
def rangesFrom (first : Nat) : List Nat → Ranges
  | outside :: inside :: rest =>
      (first + outside, first + outside + inside - 1) ::
        rangesFrom (first + outside + inside) rest
  | _ => []

/-- The ranges that a text of numbers describes. -/
def ranges (text : String) : Ranges :=
  rangesFrom 0 ((text.toList.splitOn ' ').map number)

/-- Does the character lie in one of the ranges? -/
def holds (ranges : Ranges) (character : Char) : Bool :=
  ranges.any fun range => range.1 ≤ character.toNat && character.toNat ≤ range.2

end CharacterTable

end Pipewright
