import Pipewright.Proofs.Builder.Failure
import Pipewright.Proofs.Walk.Paths

/-!
# Emitting behind what is there

An emitter that has written something before writes a document as a fresh one does: behind
the lines that are there, indented as far as these have come.  This holds at every moment of
the walk, because the closers of the document lie on top of the earlier ones and are counted
apart from them.  So it says what a walk that fails in the middle leaves behind.
-/

namespace Pipewright

open Walk

/-- The entries that an observer puts on its stack for a place that it goes on below. -/
def Flow.entries : Flow → Nat
  | .continue => 1
  | .stop => 0

section Mirroring

variable {State Other : Type}

/-- Two observers with stacks answer alike in related states, where the relation says how
many entries there are.  Entering the root adds one, and so does announcing a place to go on
below; leaving the place takes it. -/
structure Observer.Mirrors (observer : Observer State) (other : Observer Other)
    (related : Nat → State → Other → Prop) : Prop where
  root : ∀ {state state' place}, place.isRoot = true → related 0 state state' →
    (observer.enter state place).2 = (other.enter state' place).2 ∧
      related 1 (observer.enter state place).1 (other.enter state' place).1
  enter : ∀ {entries state state' place}, place.isRoot = false →
    related (entries + 1) state state' →
    (observer.enter state place).2 = (other.enter state' place).2 ∧
      related (entries + 1) (observer.enter state place).1 (other.enter state' place).1
  announce : ∀ {entries state state'} (announcement : Announcement) place,
    related (entries + 1) state state' →
    (announcement.announce observer place state).2 =
        (announcement.announce other place state').2 ∧
      related (entries + 1 + (announcement.announce other place state').2.entries)
        (announcement.announce observer place state).1
        (announcement.announce other place state').1
  leave : ∀ {entries state state'} place, related (entries + 1) state state' →
    related entries (observer.leave state place) (other.leave state' place)

/-- Two walks end alike: with `ended` entries, or failing with no fewer than `least`. -/
inductive Mirrored (related : Nat → State → Other → Prop) (ended least : Nat) :
    Outcome State → Outcome Other → Prop where
  | succeeds {state : State} {state' : Other} : related ended state state' →
      Mirrored related ended least (state, .ok ()) (state', .ok ())
  | fails {state : State} {state' : Other} {entries : Nat} (cycle : CyclicReference) :
      least ≤ entries → related entries state state' →
      Mirrored related ended least (state, .error cycle) (state', .error cycle)

namespace Mirrored

variable {related : Nat → State → Other → Prop} {ended middle least fewer : Nat}
  {outcome : Outcome State} {outcome' : Outcome Other}

theorem weaken (mirrored : Mirrored related ended least outcome outcome')
    (bound : fewer ≤ least) : Mirrored related ended fewer outcome outcome' := by
  cases mirrored with
  | succeeds alike => exact .succeeds alike
  | fails cycle enough alike => exact .fails cycle (bound.trans enough) alike

theorem andThen {next : State → Outcome State} {next' : Other → Outcome Other}
    (mirrored : Mirrored related middle least outcome outcome')
    (others : ∀ {state state'}, related middle state state' →
      Mirrored related ended least (next state) (next' state')) :
    Mirrored related ended least (Walk.andThen outcome next) (Walk.andThen outcome' next') := by
  cases mirrored with
  | succeeds alike => exact others alike
  | fails cycle enough alike => exact .fails cycle enough alike

theorem descend {answered : State × Flow} {answered' : Other × Flow}
    {below : State → Outcome State} {below' : Other → Outcome Other}
    (same : answered.2 = answered'.2)
    (goesOn : answered'.2 = .continue →
      Mirrored related ended least (below answered.1) (below' answered'.1))
    (stops : answered'.2 = .stop → related ended answered.1 answered'.1) :
    Mirrored related ended least (Walk.descend answered below)
      (Walk.descend answered' below') := by
  obtain ⟨state, flow⟩ := answered
  obtain ⟨state', flow'⟩ := answered'
  obtain rfl : flow = flow' := same
  cases flow with
  | «continue» => exact goesOn rfl
  | stop => exact .succeeds (stops rfl)

end Mirrored

namespace Walk

variable {observer : Observer State} {other : Observer Other}
  {related : Nat → State → Other → Prop}

mutual

theorem Outline.run_mirrored_of_enter {outline : Outline} {entries : Nat} {state : State}
    {state' : Other}
    (mirrors : observer.Mirrors other related) (nested : outline.Nested)
    (entered : (observer.enter state outline.place).2 = (other.enter state' outline.place).2 ∧
      related (entries + 1) (observer.enter state outline.place).1
        (other.enter state' outline.place).1) :
    Mirrored related entries (entries + 1) (outline.run observer state)
      (outline.run other state') := by
  match outline with
  | .node place below =>
      have inside : Mirrored related (entries + 1) (entries + 1)
          (descend (observer.enter state place) (below.run observer))
          (descend (other.enter state' place) (below.run other)) :=
        .descend entered.1 (fun _ => Branches.run_mirrored mirrors nested entered.2)
          fun _ => entered.2
      -- a failure below the place leaves its entry on the stack, which is why `least` is one more
      rw [Outline.run, Outline.run]
      exact inside.andThen fun alike => .succeeds (mirrors.leave place alike)

theorem Branches.run_mirrored {branches : Branches} {path : List Step} {entries : Nat}
    {state : State} {state' : Other}
    (mirrors : observer.Mirrors other related) (nested : branches.NestedIn path)
    (alike : related (entries + 1) state state') :
    Mirrored related (entries + 1) (entries + 1) (branches.run observer state)
      (branches.run other state') := by
  match branches, nested with
  | .finished, _ => exact .succeeds alike
  | .failed cycle, _ => exact .fails cycle (Nat.le_refl _) alike
  | .branch announcement first rest, ⟨⟨step, below⟩, nestedFirst, nestedRest⟩ =>
      have inner : first.place.isRoot = false := by
        rw [Context.isRoot, below, List.isEmpty_eq_false_iff]
        exact List.append_ne_nil_of_right_ne_nil _ (List.cons_ne_nil _ _)
      obtain ⟨same, announced⟩ := mirrors.announce announcement first.place alike
      have walked : Mirrored related (entries + 1) (entries + 1)
          (descend (announcement.announce observer first.place state) (first.run observer))
          (descend (announcement.announce other first.place state') (first.run other)) := by
        refine .descend same ?_ ?_
        · intro continues
          rw [continues] at announced
          exact (Outline.run_mirrored_of_enter mirrors nestedFirst
            (mirrors.enter inner announced)).weaken (Nat.le_succ _)
        · intro stops
          rw [stops] at announced
          exact announced
      rw [Branches.run, Branches.run]
      exact walked.andThen fun alike => Branches.run_mirrored mirrors nestedRest alike

end

/-- Walks of a document from related states without entries. -/
theorem walk_mirrored (document : Json) (schema : Schema) {state : State} {state' : Other}
    (mirrors : observer.Mirrors other related) (alike : related 0 state state') :
    match documentOutline schema document with
    | .error cycle => walk document schema observer state = (state, .error cycle) ∧
        walk document schema other state' = (state', .error cycle)
    | .ok _ => Mirrored related 0 1 (walk document schema observer state)
        (walk document schema other state') := by
  rw [walk_eq_run, walk_eq_run]
  cases found : documentOutline schema document with
  | error cycle => exact ⟨rfl, rfl⟩
  | ok outline =>
      have root : outline.place.isRoot = true := by
        obtain ⟨place, root, rfl⟩ := documentOutline_eq found
        rw [Context.isRoot]
        exact congrArg List.isEmpty (context_path root)
      exact Outline.run_mirrored_of_enter mirrors (documentOutline_nested found)
        (mirrors.root root alike)

end Walk

end Mirroring

/-! ## Source behind other source -/

namespace Source

/-- Lines behind other ones, indented as far as these have come. -/
def onto (base work : Source) : Source :=
  ⟨base.lines ++ work.lines.map base.indented, base.level + work.level, base.width⟩

variable {base work later : Source}

theorem indented_onto (fits : work.width = base.width) (text : List Char) :
    (base.onto work).indented text = base.indented (work.indented text) := by
  simp only [indented, onto, fits, Nat.add_mul, ← List.append_assoc,
    List.replicate_append_replicate]

theorem onto_pushLine (fits : work.width = base.width) (text : List Char) :
    (base.onto work).pushLine text = base.onto (work.pushLine text) := by
  rw [pushLine, indented_onto fits]
  simp [onto, pushLine]

theorem onto_append (started : work.lines ≠ []) (text : List Char) :
    (base.onto work).append text = base.onto (work.append text) := by
  obtain ⟨front, line, split, appended⟩ := append_eq started text
  rw [appended]
  simp [append, onto, split, indented]

theorem pushLine_lines_ne (source : Source) (text : List Char) :
    (source.pushLine text).lines ≠ [] :=
  List.append_ne_nil_of_right_ne_nil _ (List.cons_ne_nil _ _)

theorem append_keeps (source : Source) (text : List Char) :
    (source.append text).lines ≠ [] ∧ (source.append text).level = source.level ∧
      (source.append text).width = source.width := by
  unfold append
  split
  · exact ⟨List.append_ne_nil_of_right_ne_nil _ (List.cons_ne_nil _ _), rfl, rfl⟩
  · exact ⟨pushLine_lines_ne source text, rfl, rfl⟩

theorem onto_dedent (inside : 0 < work.level) :
    (base.onto work).dedent = base.onto work.dedent := by
  simp only [dedent, onto, Nat.add_sub_assoc (Nat.succ_le_of_lt inside)]

theorem onto_assoc (fits : work.width = base.width) :
    (base.onto work).onto later = base.onto (work.onto later) := by
  have indents : (base.onto work).indented = base.indented ∘ work.indented :=
    funext (indented_onto fits)
  rw [onto, indents]
  simp [onto, Nat.add_assoc]

end Source

namespace Closer

/-- What leaving the place makes of the source. -/
def write (source : Source) : Closer → Source
  | .root => (source.pushLine ".build();".toList).dedent
  | .call => source.dedent.append [')']
  | .arrayCall => source.dedent.pushLine [']', ')']
  | .element => source.dedent.append [',']
  | .nestedArray => source.dedent.pushLine [']', ',']
  | .inlineArray before after parts =>
      source.pushLine (before ++ '[' :: List.intercalate [',', ' '] parts ++ ']' :: after)
  | .emitted => source

/-- Does leaving the place go one level further out? -/
def indents : Closer → Bool
  | .root | .call | .arrayCall | .element | .nestedArray => true
  | .inlineArray _ _ _ | .emitted => false

variable {base work : Source}

theorem write_onto (closer : Closer) (fits : work.width = base.width)
    (started : work.lines ≠ []) (inside : closer.indents = true → 0 < work.level) :
    closer.write (base.onto work) = base.onto (closer.write work) := by
  have startedLine : work.dedent.lines ≠ [] := started
  have dedentFits : work.dedent.width = base.width := fits
  cases closer with
  | root =>
      have inside : 0 < (work.pushLine ".build();".toList).level := inside rfl
      rw [write, Source.onto_pushLine fits, Source.onto_dedent inside, write]
  | call | element =>
      rw [write, Source.onto_dedent (inside rfl), Source.onto_append startedLine, write]
  | arrayCall | nestedArray =>
      rw [write, Source.onto_dedent (inside rfl), Source.onto_pushLine dedentFits, write]
  | inlineArray before after parts => exact Source.onto_pushLine fits _
  | emitted => rfl

theorem write_level (closer : Closer) (source : Source) :
    (closer.write source).level = source.level - if closer.indents then 1 else 0 := by
  cases closer with
  | call | element => exact (Source.append_keeps source.dedent _).2.1
  | root | arrayCall | nestedArray | inlineArray | emitted => rfl

theorem write_keeps (closer : Closer) (started : work.lines ≠ []) :
    (closer.write work).lines ≠ [] ∧ (closer.write work).width = work.width ∧
      (closer.write work).level = work.level - if closer.indents then 1 else 0 := by
  rw [← and_assoc]
  refine ⟨?_, closer.write_level work⟩
  cases closer with
  | root | arrayCall | nestedArray | inlineArray => exact ⟨Source.pushLine_lines_ne _ _, rfl⟩
  | call | element =>
      obtain ⟨appended, _, width⟩ := Source.append_keeps work.dedent _
      exact ⟨appended, width⟩
  | emitted => exact ⟨started, rfl⟩

end Closer

namespace Emitter

theorem leave_of_opened {emitter : Emitter} {closer : Closer} {closers : List Closer}
    (opened : emitter.closers = closer :: closers) (place : Context) :
    emitter.leave place =
      { emitter with source := closer.write emitter.source, closers := closers } := by
  rw [leave, opened]
  cases closer <;> rfl

/-- The emitter that has done the work of another one behind its own. -/
def onto (base work : Emitter) : Emitter :=
  ⟨base.config, base.source.onto work.source, work.closers ++ base.closers,
    base.usesNode || work.usesNode, base.usesExpression || work.usesExpression⟩

/-- The emitter has done the work behind that of the base, and has as many own closers open.
The work is indented once for each of them that says so. -/
structure Atop (base : Emitter) (entries : Nat) (emitter work : Emitter) : Prop where
  same : emitter = base.onto work
  config : work.config = base.config
  width : work.source.width = base.source.width
  level : work.source.level = work.closers.countP Closer.indents
  count : work.closers.length = entries
  started : 0 < entries → work.source.lines ≠ []

namespace Atop

variable {base emitter work : Emitter} {entries : Nat} {place : Context}

theorem nodeCall_eq (atop : base.Atop entries emitter work) :
    emitter.nodeCall = work.nodeCall := by
  rw [atop.same, nodeCall, nodeCall, atop.config]
  rfl

theorem config_eq (atop : base.Atop entries emitter work) : emitter.config = work.config := by
  rw [atop.same, atop.config]
  rfl

theorem writeLine (atop : base.Atop entries emitter work) (line : List Char) :
    base.Atop entries (emitter.writeLine line) (work.writeLine line) where
  same := by
    rw [atop.same, Emitter.writeLine, onto, Source.onto_pushLine atop.width]
    rfl
  config := atop.config
  width := atop.width
  level := atop.level
  count := atop.count
  started _ := Source.pushLine_lines_ne _ _

theorem noteLiteral (atop : base.Atop entries emitter work) (value : Json) :
    base.Atop entries (emitter.noteLiteral value) (work.noteLiteral value) where
  same := by
    rw [atop.same]
    simp only [Emitter.noteLiteral, onto, Bool.or_assoc]
  config := atop.config
  width := atop.width
  level := atop.level
  count := atop.count
  started := atop.started

theorem open_ (atop : base.Atop entries emitter work) (started : work.source.lines ≠ [])
    {closer : Closer} (stays : closer.indents = false) :
    base.Atop (entries + 1) (emitter.open_ closer) (work.open_ closer) where
  same := by
    rw [atop.same]
    rfl
  config := atop.config
  width := atop.width
  level := by
    rw [Emitter.open_, List.countP_cons_of_neg (by rw [stays]; exact Bool.false_ne_true)]
    exact atop.level
  count := congrArg (· + 1) atop.count
  started _ := started

theorem openIndented (atop : base.Atop entries emitter work) (line : List Char)
    {closer : Closer} (indents : closer.indents = true) :
    base.Atop (entries + 1) (emitter.openIndented line closer)
      (work.openIndented line closer) where
  same := by
    rw [atop.same, Emitter.openIndented, onto, Source.onto_pushLine atop.width]
    rfl
  config := atop.config
  width := atop.width
  level := by
    rw [Emitter.openIndented, List.countP_cons_of_pos indents]
    exact congrArg (· + 1) atop.level
  count := congrArg (· + 1) atop.count
  started _ := Source.pushLine_lines_ne _ _

theorem openNode (atop : base.Atop entries emitter work) (line : List Char)
    {closer : Closer} (indents : closer.indents = true) :
    base.Atop (entries + 1) (emitter.openNode line closer) (work.openNode line closer) where
  same := by
    have opened := (atop.openIndented line indents).same
    rw [Emitter.openNode, opened]
    simp [Emitter.openNode, onto]
  config := atop.config
  width := atop.width
  level := (atop.openIndented line indents).level
  count := (atop.openIndented line indents).count
  started := (atop.openIndented line indents).started

/-- Writing the closer of an array on one line, and going on with it. -/
theorem inlineItem {before after : List Char} {parts : List (List Char)}
    {closers : List Closer} (atop : base.Atop entries emitter work)
    (opened : work.closers = .inlineArray before after parts :: closers) :
    base.Atop (entries + 1)
      (emitter.inlineItem place before after parts (closers ++ base.closers))
      (work.inlineItem place before after parts closers) := by
  have put : ∀ part, base.Atop (entries + 1)
      { emitter with
        closers := .emitted :: .inlineArray before after (parts ++ [part]) ::
          (closers ++ base.closers) }
      { work with
        closers := .emitted :: .inlineArray before after (parts ++ [part]) :: closers } := by
    intro part
    have level := atop.level
    have count := atop.count
    rw [opened] at level count
    refine ⟨?_, atop.config, atop.width, level, congrArg (· + 1) count, fun _ => ?_⟩
    · rw [atop.same]
      rfl
    · exact atop.started (by rw [← count]; exact Nat.succ_pos _)
  have literal : scalarLiteral emitter.config place.value =
      scalarLiteral work.config place.value := by rw [atop.config_eq]
  unfold Emitter.inlineItem
  split
  · exact put _
  · rw [literal]
    exact (put _).noteLiteral _

/-- With a closer of its own, the emitter looks at no other. -/
theorem exists_closer (atop : base.Atop (entries + 1) emitter work) :
    ∃ closer closers, work.closers = closer :: closers ∧
      emitter.closers = closer :: (closers ++ base.closers) := by
  have count := atop.count
  cases opened : work.closers with
  | nil =>
      rw [opened] at count
      cases count
  | cons closer closers =>
      refine ⟨closer, closers, rfl, ?_⟩
      rw [atop.same, onto, opened]
      rfl

theorem leave (atop : base.Atop (entries + 1) emitter work) (place : Context) :
    base.Atop entries (emitter.leave place) (work.leave place) := by
  obtain ⟨closer, closers, opened, stacked⟩ := atop.exists_closer
  have started := atop.started (Nat.succ_pos entries)
  have level := atop.level
  have count := atop.count
  rw [opened] at level count
  -- the level goes down only for a closer that has raised it, so it never reaches the base's
  have inside : closer.indents = true → 0 < work.source.level := by
    intro indents
    rw [level, List.countP_cons_of_pos indents]
    exact Nat.succ_pos _
  have written : emitter.source = base.source.onto work.source := by
    rw [atop.same]
    rfl
  obtain ⟨startedLine, width, lowered⟩ := closer.write_keeps started
  rw [leave_of_opened stacked, leave_of_opened opened, written,
    closer.write_onto atop.width started inside]
  refine ⟨?_, atop.config, width.trans atop.width, ?_, Nat.succ.inj count,
    fun _ => startedLine⟩
  · rw [atop.same]
    rfl
  · rw [lowered, level, List.countP_cons, Nat.add_sub_cancel]

theorem enter_root (atop : base.Atop 0 emitter work) (root : place.isRoot = true) :
    (emitter.enter place).2 = (work.enter place).2 ∧
      base.Atop 1 (emitter.enter place).1 (work.enter place).1 := by
  rw [Emitter.enter_root emitter root, Emitter.enter_root work root, atop.config_eq]
  exact ⟨rfl, atop.openIndented _ rfl⟩

theorem enter (atop : base.Atop (entries + 1) emitter work) (inner : place.isRoot = false) :
    (emitter.enter place).2 = (work.enter place).2 ∧
      base.Atop (entries + 1) (emitter.enter place).1 (work.enter place).1 := by
  obtain ⟨closer, closers, opened, stacked⟩ := atop.exists_closer
  unfold Emitter.enter
  rw [inner, if_neg Bool.false_ne_true, if_neg Bool.false_ne_true, opened, stacked]
  cases closer <;> exact ⟨rfl, atop⟩

theorem property (atop : base.Atop (entries + 1) emitter work) (place : Context) :
    (emitter.property place).2 = (work.property place).2 ∧
      base.Atop (entries + 1 + (work.property place).2.entries) (emitter.property place).1
        (work.property place).1 := by
  have started := atop.started (Nat.succ_pos entries)
  unfold Emitter.property
  rw [atop.config_eq, atop.nodeCall_eq]
  cases place.propertyName? with
  | none => exact ⟨rfl, atop⟩
  | some key =>
      cases place.shape with
      | opaqueValue => exact ⟨rfl, atop.writeLine _⟩
      | scalar | object | array =>
          cases place.value with
          | object members => exact ⟨rfl, atop.openNode _ rfl⟩
          | array items =>
              dsimp only
              cases items.all isInline with
              | true => exact ⟨rfl, atop.open_ started rfl⟩
              | false => exact ⟨rfl, atop.openIndented _ rfl⟩
          | null | boolean _ | number _ | string _ =>
              exact ⟨rfl, (atop.writeLine _).noteLiteral _⟩

theorem lineItem (atop : base.Atop (entries + 1) emitter work) (place : Context) :
    base.Atop (entries + 1 + 1) (emitter.lineItem place) (work.lineItem place) := by
  have started := atop.started (Nat.succ_pos entries)
  unfold Emitter.lineItem
  rw [atop.config_eq, atop.nodeCall_eq]
  cases place.shape with
  | opaqueValue => exact (atop.writeLine _).open_ (Source.pushLine_lines_ne _ _) rfl
  | scalar | object | array =>
      cases place.value with
      | object members => exact atop.openNode _ rfl
      | array items =>
          dsimp only
          cases items.all isInline with
          | true => exact atop.open_ started rfl
          | false => exact atop.openIndented _ rfl
      | null | boolean _ | number _ | string _ =>
          exact ((atop.writeLine _).open_ (Source.pushLine_lines_ne _ _) rfl).noteLiteral _

theorem item (atop : base.Atop (entries + 1) emitter work) (place : Context) (position : Nat) :
    base.Atop (entries + 1 + 1) (emitter.item place position) (work.item place position) := by
  obtain ⟨closer, closers, opened, stacked⟩ := atop.exists_closer
  unfold Emitter.item
  rw [opened, stacked]
  cases closer with
  | inlineArray before after parts => exact atop.inlineItem opened
  | root | call | arrayCall | element | nestedArray | emitted => exact atop.lineItem place

end Atop

/-- On top of any work an emitter does as a fresh one. -/
theorem mirrors (base : Emitter) : observer.Mirrors observer base.Atop where
  root root atop := atop.enter_root root
  enter inner atop := atop.enter inner
  announce announcement place atop :=
    match announcement with
    | .property => atop.property place
    | .item position => ⟨rfl, atop.item place position⟩
  leave place atop := atop.leave place

end Emitter

end Pipewright
