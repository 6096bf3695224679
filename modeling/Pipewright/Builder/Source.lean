/-!
# Indented source text

Generated source is a list of lines.  A new line starts at the current
indentation, and the last line can be continued.
-/

namespace Pipewright

/-- Lines of source, the current indentation level, and the blanks per level. -/
structure Source where
  lines : List (List Char)
  level : Nat
  width : Nat
deriving DecidableEq, Repr

namespace Source

/-- No lines yet. -/
def empty (width : Nat) : Source :=
  ⟨[], 0, width⟩

/-- Indent the lines that follow by one more level. -/
def indent (source : Source) : Source :=
  { source with level := source.level + 1 }

/-- Indent the lines that follow by one level less, if there is one. -/
def dedent (source : Source) : Source :=
  { source with level := source.level - 1 }

/-- A text at the current indentation. -/
def indented (source : Source) (text : List Char) : List Char :=
  List.replicate (source.level * source.width) ' ' ++ text

/-- Start a new line. -/
def pushLine (source : Source) (text : List Char) : Source :=
  { source with lines := source.lines ++ [source.indented text] }

/-- Continue the last line; without one, start it. -/
def append (source : Source) (text : List Char) : Source :=
  match source.lines.getLast? with
  | some line => { source with lines := source.lines.dropLast ++ [line ++ text] }
  | none => source.pushLine text

/-- Are there no lines yet? -/
def isEmpty (source : Source) : Bool :=
  source.lines.isEmpty

/-- The lines joined by line breaks, with one at the end. -/
def chars (source : Source) : List Char :=
  match source.lines with
  | [] => ['\n']
  | lines => lines.flatMap fun line => line ++ ['\n']

/-- The lines joined by line breaks, with one at the end. -/
def text (source : Source) : String :=
  String.ofList source.chars

end Source

end Pipewright
