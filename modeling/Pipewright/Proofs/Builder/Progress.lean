import Pipewright.Proofs.Builder.Layout

/-!
# Progress of the emitter

What each step of the emitter adds to the source, and which closers are open after
it.  Lines are seen as one text in which every line follows a line break.
-/

namespace Pipewright

namespace Source

/-- Every line behind a line break. -/
def body (source : Source) : List Char :=
  source.lines.flatMap fun line => '\n' :: line

theorem body_pushLine (source : Source) (text : List Char) :
    (source.pushLine text).body = source.body ++ '\n' :: source.indented text := by
  simp [body, pushLine]

theorem append_eq {source : Source} (started : source.lines ≠ []) (text : List Char) :
    ∃ front line, source.lines = front ++ [line] ∧
      source.append text = { source with lines := front ++ [line ++ text] } := by
  refine ⟨source.lines.dropLast, source.lines.getLast started,
    (List.dropLast_append_getLast started).symm, ?_⟩
  simp only [append, List.getLast?_eq_some_getLast started]

theorem body_append {source : Source} (started : source.lines ≠ []) (text : List Char) :
    (source.append text).body = source.body ++ text := by
  obtain ⟨front, line, split, appended⟩ := append_eq started text
  rw [appended]
  simp [body, split]

theorem chars_eq {source : Source} (started : source.lines ≠ []) :
    '\n' :: source.chars = source.body ++ ['\n'] := by
  have shifted : ∀ lines : List (List Char),
      '\n' :: lines.flatMap (fun line => line ++ ['\n']) =
        lines.flatMap (fun line => '\n' :: line) ++ ['\n'] := by
    intro lines
    induction lines with
    | nil => rfl
    | cons line lines inner => simp [inner]
  unfold chars body
  split
  · next empty => exact absurd empty started
  · exact shifted _

end Source

namespace Emitter

open Layout

/-- The emitter uses the standard names, has written the body, stands at the level,
and has the closers open. -/
structure Stands (emitter : Emitter) (body : List Char) (level : Nat)
    (closers : List Closer) : Prop where
  config : emitter.config = EmitterConfig.standard
  started : emitter.source.lines ≠ []
  body : emitter.source.body = body
  level : emitter.source.level = level
  width : emitter.source.width = EmitterConfig.standard.indentWidth
  closers : emitter.closers = closers

namespace Stands

variable {emitter : Emitter} {body : List Char} {level : Nat} {closers : List Closer}

theorem indented_eq (stands : emitter.Stands body level closers) (line : List Char) :
    '\n' :: emitter.source.indented line = newLine level ++ line := by
  simp [Source.indented, newLine, stands.level, stands.width]

theorem writeLine (stands : emitter.Stands body level closers) (line : List Char) :
    (emitter.writeLine line).Stands (body ++ newLine level ++ line) level closers where
  config := stands.config
  started := by simp [Emitter.writeLine, Source.pushLine]
  body := by
    rw [Emitter.writeLine, Source.body_pushLine, stands.indented_eq, stands.body,
      List.append_assoc]
  level := stands.level
  width := stands.width
  closers := stands.closers

theorem append (stands : emitter.Stands body level closers) (line : List Char) :
    Stands { emitter with source := emitter.source.append line } (body ++ line) level
      closers := by
  obtain ⟨front, last, _, appended⟩ := Source.append_eq stands.started line
  refine ⟨stands.config, ?_, ?_, ?_, ?_, stands.closers⟩
  · simp [appended]
  · rw [Source.body_append stands.started, stands.body]
  · rw [appended]
    exact stands.level
  · rw [appended]
    exact stands.width

theorem open_ (stands : emitter.Stands body level closers) (closer : Closer) :
    (emitter.open_ closer).Stands body level (closer :: closers) where
  config := stands.config
  started := stands.started
  body := stands.body
  level := stands.level
  width := stands.width
  closers := congrArg (closer :: ·) stands.closers

theorem openIndented (stands : emitter.Stands body level closers) (line : List Char)
    (closer : Closer) :
    (emitter.openIndented line closer).Stands (body ++ newLine level ++ line) (level + 1)
      (closer :: closers) where
  config := stands.config
  started := (stands.writeLine line).started
  body := (stands.writeLine line).body
  level := congrArg (· + 1) stands.level
  width := stands.width
  closers := congrArg (closer :: ·) stands.closers

theorem openNode (stands : emitter.Stands body level closers) (line : List Char)
    (closer : Closer) :
    (emitter.openNode line closer).Stands (body ++ newLine level ++ line) (level + 1)
      (closer :: closers) :=
  ⟨stands.config, (stands.openIndented line closer).started,
    (stands.openIndented line closer).body, (stands.openIndented line closer).level,
    stands.width, (stands.openIndented line closer).closers⟩

theorem noteLiteral (stands : emitter.Stands body level closers) (value : Json) :
    (emitter.noteLiteral value).Stands body level closers :=
  ⟨stands.config, stands.started, stands.body, stands.level, stands.width, stands.closers⟩

end Stands

/-! ## Leaving -/

/-- Whether a value is the argument of a call or an element of an array. -/
inductive Position where
  | argument
  | element

namespace Position

/-- What follows the value on its last line. -/
def after : Position → List Char
  | .argument => [')']
  | .element => [',']

/-- The closer of an object. -/
def nodeCloser : Position → Closer
  | .argument => .call
  | .element => .element

/-- The closer of an array with an element on each line. -/
def arrayCloser : Position → Closer
  | .argument => .arrayCall
  | .element => .nestedArray

end Position

namespace Stands

variable {emitter : Emitter} {body : List Char} {level : Nat} {closers : List Closer}
  (place : Context)

theorem leave_inlineArray {before after : List Char} {parts : List (List Char)}
    (stands : emitter.Stands body level (.inlineArray before after parts :: closers)) :
    (emitter.leave place).Stands
      (body ++ newLine level ++
        (before ++ '[' :: List.intercalate [',', ' '] parts ++ ']' :: after))
      level closers := by
  unfold Emitter.leave
  rw [stands.closers]
  exact ⟨stands.config, (stands.writeLine _).started, (stands.writeLine _).body, stands.level,
    stands.width, rfl⟩

/-- Taking a closer and going one level further out. -/
theorem dedent {closer : Closer}
    (stands : emitter.Stands body (level + 1) (closer :: closers)) :
    Stands { emitter with source := emitter.source.dedent, closers := closers } body level
      closers := by
  have dedented : emitter.source.dedent.level = level := by
    rw [Source.dedent, stands.level, Nat.add_sub_cancel]
  exact ⟨stands.config, stands.started, stands.body, dedented, stands.width, rfl⟩

theorem leave_node {position : Position}
    (stands : emitter.Stands body (level + 1) (position.nodeCloser :: closers)) :
    (emitter.leave place).Stands (body ++ position.after) level closers := by
  unfold Emitter.leave
  rw [stands.closers]
  cases position with
  | argument => exact stands.dedent.append [')']
  | element => exact stands.dedent.append [',']

theorem leave_array {position : Position}
    (stands : emitter.Stands body (level + 1) (position.arrayCloser :: closers)) :
    (emitter.leave place).Stands (body ++ newLine level ++ ']' :: position.after) level
      closers := by
  unfold Emitter.leave
  rw [stands.closers]
  cases position with
  | argument => exact stands.dedent.writeLine [']', ')']
  | element => exact stands.dedent.writeLine [']', ',']

/-- Leaving the root writes its last line before it goes back. -/
theorem leave_root (stands : emitter.Stands body 1 [.root]) :
    (emitter.leave place).source.lines ≠ [] ∧
      (emitter.leave place).source.body = body ++ newLine 1 ++ ".build();".toList := by
  unfold Emitter.leave
  rw [stands.closers]
  have written := stands.writeLine ".build();".toList
  exact ⟨written.started, written.body⟩

end Stands

end Emitter

end Pipewright
