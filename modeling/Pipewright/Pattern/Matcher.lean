import Pipewright.Pattern.CharacterSet

/-!
# Matchers

A matcher leads from places in a text to further places: `reach` maps the places
where a match may start to the places where it may end.  A text matches when
some place can be reached from some place.
-/

namespace Pipewright

/-- A condition on a place in a text. -/
inductive PlaceCondition where
  | startText
  | endText
  | startLine
  | endLine
  | startLineReturn
  | endLineReturn
  | boundary (word : CharacterSet)
  | noBoundary (word : CharacterSet)
  | wordStart (word : CharacterSet)
  | wordEnd (word : CharacterSet)
  | wordStartHalf (word : CharacterSet)
  | wordEndHalf (word : CharacterSet)
deriving Repr

namespace PlaceCondition

/-- The character before a place. -/
def before? (text : Array Char) (place : Nat) : Option Char :=
  if place = 0 then none else text[place - 1]?

/-- Is there a character of the set? -/
def isWord (word : CharacterSet) (character : Option Char) : Bool :=
  (character.map word.holds).getD false

/-- Does the condition hold at a place?  With carriage returns, a carriage
return, a line feed, or both together end a line. -/
def holds (text : Array Char) (place : Nat) : PlaceCondition → Bool
  | .startText => place == 0
  | .endText => place == text.size
  | .startLine => place == 0 || before? text place == some '\n'
  | .endLine => place == text.size || text[place]? == some '\n'
  | .startLineReturn =>
      place == 0 || before? text place == some '\n' ||
        (before? text place == some '\r' && text[place]? != some '\n')
  | .endLineReturn =>
      place == text.size || text[place]? == some '\r' ||
        (text[place]? == some '\n' && before? text place != some '\r')
  | .boundary word => isWord word (before? text place) != isWord word text[place]?
  | .noBoundary word => isWord word (before? text place) == isWord word text[place]?
  | .wordStart word => !isWord word (before? text place) && isWord word text[place]?
  | .wordEnd word => isWord word (before? text place) && !isWord word text[place]?
  | .wordStartHalf word => !isWord word (before? text place)
  | .wordEndHalf word => !isWord word text[place]?

end PlaceCondition

/-- What a pattern accepts. -/
inductive Matcher where
  | empty
  | character (set : CharacterSet)
  | condition (required : PlaceCondition)
  | sequence (parts : List Matcher)
  | choice (branches : List Matcher)
  | repeated (least : Nat) (most : Option Nat) (body : Matcher)
deriving Repr

namespace Matcher

/-- The places that are not in `seen`, each once. -/
def newPlaces (seen places : List Nat) : List Nat :=
  (places.filter fun place => !seen.contains place).eraseDups

/-- Take a step exactly `count` times. -/
def exactly (step : List Nat → List Nat) : Nat → List Nat → List Nat
  | 0, places => places
  | count + 1, places => if places.isEmpty then [] else exactly step count (step places)

/-- The places seen, and those reached from `places` in at most `count` steps. -/
def upTo (step : List Nat → List Nat) : Nat → List Nat → List Nat → List Nat
  | 0, seen, _ => seen
  | count + 1, seen, places =>
      let fresh := newPlaces seen (step places)
      if fresh.isEmpty then seen else upTo step count (seen ++ fresh) fresh

mutual

/-- The places reached from some places. -/
def reach (text : Array Char) : Matcher → List Nat → List Nat
  | .empty, places => places
  | .character set, places =>
      places.filterMap fun place =>
        text[place]?.bind fun character => if set.holds character then some (place + 1) else none
  | .condition required, places => places.filter fun place => required.holds text place
  | .sequence parts, places => reachAll text parts places
  | .choice branches, places => newPlaces [] (reachAny text branches places)
  | .repeated least most body, places =>
      let step := fun places => newPlaces [] (body.reach text places)
      let start := exactly step least places
      let further :=
        match most with
        | some most => most - least
        | none => text.size + 1
      upTo step further start start

/-- The places reached through all parts, one after another. -/
def reachAll (text : Array Char) : List Matcher → List Nat → List Nat
  | [], places => places
  | part :: rest, places => reachAll text rest (part.reach text places)

/-- The places reached through one of the branches. -/
def reachAny (text : Array Char) : List Matcher → List Nat → List Nat
  | [], _ => []
  | branch :: rest, places => branch.reach text places ++ reachAny text rest places

end

/-- Does the matcher accept some part of the text? -/
def accepts (matcher : Matcher) (text : Array Char) : Bool :=
  !(matcher.reach text (List.range (text.size + 1))).isEmpty

end Matcher

end Pipewright
