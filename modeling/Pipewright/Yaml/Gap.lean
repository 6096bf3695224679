import Pipewright.Yaml.Fault

/-!
# Gaps in flow scalars

Between the words of a plain or quoted scalar lie runs of blanks and line
breaks.  Blanks on one line are kept; a single line break is folded into a
space, and of several the first is dropped.
-/

namespace Pipewright

namespace Yaml

/-- A run of blanks and line breaks: the blanks before its first break, whether
it has a break, and what its breaks count for. -/
structure Gap where
  blanks : List Char
  isBroken : Bool
  breaks : List Char
deriving DecidableEq, Repr, Inhabited

namespace Gap

/-- The gap without characters. -/
def empty : Gap := ⟨[], false, []⟩

/-- The gap behind a line break that is escaped and counts for nothing. -/
def escaped : Gap := ⟨[], true, []⟩

/-- What a gap counts for in the scalar. -/
def folded (gap : Gap) : List Char :=
  if gap.isBroken then
    match gap.breaks with
    | ['\n'] => [' ']
    | '\n' :: further => further
    | breaks => breaks
  else gap.blanks

/-- Read the rest of a gap.  Once it has a break, a tab to the left of `margin`
is a fault.  Every turn takes a character, so the length of the text bounds the
turns. -/
def readLoop (margin : Nat) : Nat → Gap → Cursor → Except Place (Gap × Cursor)
  | 0, gap, cursor => .ok (gap, cursor)
  | fuel + 1, gap, cursor =>
      match cursor.rest with
      | [] => .ok (gap, cursor)
      | character :: _ =>
          if isBlank character then
            if gap.isBroken then
              if character == '\t' && cursor.place.column < margin then .error cursor.place
              else readLoop margin fuel gap (cursor.skip 1)
            else
              readLoop margin fuel { gap with blanks := gap.blanks ++ [character] }
                (cursor.skip 1)
          else if isBreak character then
            let (taken, behind) := cursor.takeBreak
            readLoop margin fuel ⟨[], true, gap.breaks ++ taken⟩ behind
          else .ok (gap, cursor)

/-- Read the rest of a gap. -/
def read (margin : Nat) (gap : Gap) (cursor : Cursor) : Except Place (Gap × Cursor) :=
  readLoop margin cursor.rest.length gap cursor

end Gap

end Yaml

end Pipewright
