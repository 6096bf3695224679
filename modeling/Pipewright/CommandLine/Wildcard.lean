import Pipewright.CommandLine.Files

/-!
# Wildcards

A wildcard pattern names files: a question mark stands for one character, an
asterisk for any number of them, brackets for one of a class, and two asterisks
between slashes for any number of directories.  The files that a pattern names
are listed directory by directory in the order of their names.
-/

namespace Pipewright

/-- Why a text is not a wildcard pattern. -/
inductive WildcardProblem where
  | tooManyAsterisks
  | recursiveNotAlone
  | classInvalid
deriving DecidableEq, Repr

/-- What is wrong with a pattern, and near which of its characters. -/
structure WildcardFault where
  position : Nat
  problem : WildcardProblem
deriving DecidableEq, Repr

/-- The wording of a fault. -/
def WildcardFault.message (fault : WildcardFault) : String :=
  "Pattern syntax error near position " ++ toString fault.position ++ ": " ++
    match fault.problem with
    | .tooManyAsterisks => "wildcards are either regular \x60*\x60 or recursive \x60**\x60"
    | .recursiveNotAlone => "recursive wildcards must form a single path component"
    | .classInvalid => "invalid range pattern"

/-- A member of a character class. -/
inductive ClassMember where
  | single (character : Char)
  | range (first last : Char)
deriving DecidableEq, Repr

/-- Does a member hold a character? -/
def ClassMember.holds (member : ClassMember) (character : Char) : Bool :=
  match member with
  | .single own => own == character
  | .range first last => first ≤ character && character ≤ last

/-- A part of a pattern. -/
inductive WildcardToken where
  | exactly (character : Char)
  | anyOne
  | anyNumber
  | recursive
  | oneOf (isNegated : Bool) (members : List ClassMember)
deriving DecidableEq, Repr

/-- Does a token that stands for one character stand for this one? -/
def WildcardToken.holds (token : WildcardToken) (character : Char) : Bool :=
  match token with
  | .exactly own => own == character
  | .oneOf isNegated members => members.any (·.holds character) != isNegated
  | _ => true

/-- The pattern for one name. -/
abbrev Wildcard := List WildcardToken

namespace Wildcard

/-- Is this one of the characters that make a path a pattern? -/
def isSpecial (character : Char) : Bool :=
  character == '*' || character == '?' || character == '['

/-- The members between two brackets. -/
def members : List Char → List ClassMember
  | first :: '-' :: last :: rest => .range first last :: members rest
  | character :: rest => .single character :: members rest
  | [] => []

/-- Cut a text at its first closing bracket, which must not be its first
character. -/
def splitClass (text : List Char) : Option (List Char × List Char) :=
  match text with
  | first :: rest =>
      match rest.dropWhile (· != ']') with
      | _ :: behind => some (first :: rest.takeWhile (· != ']'), behind)
      | [] => none
  | [] => none

/-- A class, behind its opening bracket: the token, its length with both brackets
and what follows. -/
def readClass (text : List Char) : Option (WildcardToken × Nat × List Char) :=
  match text with
  | '!' :: rest =>
      (splitClass rest).map fun (inside, behind) =>
        (.oneOf true (members inside), inside.length + 3, behind)
  | _ =>
      (splitClass text).map fun (inside, behind) =>
        (.oneOf false (members inside), inside.length + 2, behind)

/-- Read a pattern from a position; `atStart` says whether a name begins there.
Every turn takes a character, so the length of the text bounds the turns. -/
def readLoop : Nat → Nat → Bool → List Char → Except WildcardFault Wildcard
  | 0, _, _, _ => .ok []
  | _ + 1, _, _, [] => .ok []
  | fuel + 1, position, atStart, character :: rest =>
      if character == '?' then (readLoop fuel (position + 1) false rest).map (.anyOne :: ·)
      else if character == '*' then
        match rest with
        | '*' :: '*' :: _ => .error ⟨position + 2, .tooManyAsterisks⟩
        | '*' :: behind =>
            if !atStart then .error ⟨position - 1, .recursiveNotAlone⟩
            else
              match behind with
              | '/' :: behind =>
                  (readLoop fuel (position + 3) true behind).map (.recursive :: ·)
              | [] => .ok [.recursive]
              | _ => .error ⟨position + 2, .recursiveNotAlone⟩
        | _ => (readLoop fuel (position + 1) false rest).map (.anyNumber :: ·)
      else if character == '[' then
        match readClass rest with
        | some (token, length, behind) =>
            (readLoop fuel (position + length) false behind).map (token :: ·)
        | none => .error ⟨position, .classInvalid⟩
      else
        (readLoop fuel (position + 1) (character == '/') rest).map (.exactly character :: ·)

/-- Read a pattern. -/
def read (text : String) : Except WildcardFault Wildcard :=
  readLoop (text.length + 1) 0 true text.toList

/-- Does a pattern stand for any number of directories? -/
def isRecursive (pattern : Wildcard) : Bool := pattern.contains .recursive

/-- The only name that a pattern without wildcards stands for. -/
def literal? (pattern : Wildcard) : Option String :=
  (pattern.mapM fun token =>
    match token with
    | WildcardToken.exactly character => some character
    | _ => none).map String.ofList

/-- Does a pattern stand for a name? -/
def accepts : Wildcard → List Char → Bool
  | [], name => name.isEmpty
  | .anyNumber :: rest, name =>
      accepts rest name ||
        match name with
        | [] => false
        | _ :: behind => accepts (.anyNumber :: rest) behind
  | token :: rest, name =>
      match name with
      | [] => false
      | character :: behind => token.holds character && accepts rest behind
termination_by pattern name => (pattern.length + name.length)

/-! ## The files that a pattern names -/

/-- The bound on the number of names in a path. -/
def depthLimit : Nat := 4096

/-- Does a pattern begin with a dot? -/
def beginsWithDot (pattern : Wildcard) : Bool :=
  pattern.head? == some (.exactly '.')

section Expansion

variable {m : Type → Type} [Monad m]

/-- The paths that some patterns lead to from an entry of a directory, given those
that patterns lead to from a directory. -/
def visit (files : FileAccess m) (descend : List Wildcard → String → m (List String))
    (pattern : Wildcard) (further : List Wildcard) (path name : String) : m (List String) := do
  let accept (patterns : List Wildcard) : m (List String) :=
    match patterns with
    | own :: further => if own.accepts name.toList then descend further path else pure []
    | [] => pure [path]
  if pattern.isRecursive then
    let further := further.dropWhile isRecursive
    let isDirectory ← files.isDirectory path
    let here ←
      if further.isEmpty then pure (if isDirectory then [path] else []) else accept further
    let deeper ← if isDirectory then descend (pattern :: further) path else pure []
    return here ++ deeper
  else accept (pattern :: further)

/-- The paths that some patterns, one for each name, lead to from a directory. -/
def descend (files : FileAccess m) (onlyDirectories : Bool) :
    Nat → List Wildcard → String → m (List String)
  | 0, _, _ => pure []
  | _ + 1, [], path => do
      if onlyDirectories then
        return if ← files.isDirectory path then [path] else []
      else return [path]
  | fuel + 1, pattern :: further, path => do
      let here := path == "."
      match pattern.literal? with
      | some name =>
          let next := if here then name else FileName.join path name
          let isThere ←
            if name == "." || name == ".." then files.isDirectory path
            else files.isPresent next
          if isThere then descend files onlyDirectories fuel further next else return []
      | none =>
          if ← files.isDirectory path then
            let dots := if pattern.beginsWithDot then ["..", "."] else []
            let special ← (dots.filter fun name => pattern.accepts name.toList).mapM fun name =>
              descend files onlyDirectories fuel further (FileName.join path name)
            let names := (← files.names path).mergeSort fun left right => decide (left ≤ right)
            let found ← names.mapM fun name =>
              visit files (descend files onlyDirectories fuel) pattern further
                (if here then name else FileName.join path name) name
            return special.flatten ++ found.flatten
          else return []

/-- The parts of a pattern, one for each name; a trailing slash adds none. -/
def namesOf (text : String) : List String :=
  let parts := FileName.parts text
  if parts.getLast? == some "" then parts.dropLast else parts

/-- The paths of the files that a pattern names. -/
def expand (files : FileAccess m) (text : String) :
    m (Except WildcardFault (List String)) := do
  let isAbsolute := text.startsWith "/"
  let inner := if isAbsolute then String.ofList text.toList.tail else text
  let patterns : Except WildcardFault (List Wildcard) := do
    let _ ← read text
    (namesOf inner).mapM read
  match patterns with
  | .error fault => return .error fault
  | .ok patterns =>
      let found ← descend files (text.endsWith "/") depthLimit patterns
        (if isAbsolute then "/" else ".")
      return .ok found

end Expansion

end Wildcard

end Pipewright
