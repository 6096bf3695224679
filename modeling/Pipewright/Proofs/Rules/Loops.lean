import Mathlib.Data.List.Nodup
import Pipewright.Proofs.Rules.Links
import Pipewright.Proofs.Rules.Scanning

/-!
# Loops of links

Following links from a property either ends or comes to a loop, and from then on goes round
it.  Every property leads into at most one loop, and loops have no members in common, so that
they are cut one by one: to cut one of them leaves the others, and the ways into them, as
they are.  Each loop loses the rule that closes it behind the member that was met first.
-/

namespace Pipewright

namespace RuleTable

variable {table small large : RuleTable} {property field last removed : String}
  {fields loop loop' : List String}

/-- The properties are different, each is linked to the next one, and the last one to the
first. -/
def IsLoop (table : RuleTable) : List String → Prop
  | [] => False
  | first :: others =>
      (first :: others).Nodup ∧ table.LinkPath first (others ++ [first]) first

/-- Following links from the property comes to a member of the loop. -/
def LeadsInto (table : RuleTable) (property : String) (loop : List String) : Prop :=
  ∃ fields last, table.LinkPath property fields last ∧ last ∈ loop

/-- Following links from `start` comes to `first` before any other member of the loop. -/
def Meets (table : RuleTable) (start : String) (loop : List String) (first : String) : Prop :=
  first ∈ loop ∧ ∃ fields passed, table.LinkPath start fields first ∧
    start :: fields = passed ++ [first] ∧ ∀ property ∈ passed, property ∉ loop

/-! ## Paths -/

theorem LinkPath.mono (below : LinksBelow small large)
    (path : small.LinkPath property fields last) : large.LinkPath property fields last := by
  induction path with
  | here property => exact .here property
  | step linked _ inner => exact .step (below _ _ linked) inner

theorem LinkPath.append {middle : String} {onward : List String}
    (path : table.LinkPath property fields middle) (further : table.LinkPath middle onward last) :
    table.LinkPath property (fields ++ onward) last := by
  induction path with
  | here => exact further
  | step linked _ inner => exact .step linked (inner further)

theorem LinkPath.concat (path : table.LinkPath property fields last)
    (linked : table.wrapField? last = some field) :
    table.LinkPath property (fields ++ [field]) field :=
  path.append (.step linked (.here field))

theorem LinkPath.last_mem (path : table.LinkPath property fields last) :
    last ∈ property :: fields := by
  induction path with
  | here => exact List.mem_cons_self
  | step _ _ inner => exact List.mem_cons_of_mem _ inner

/-- A path can be cut in two at each of its places. -/
theorem LinkPath.split (path : table.LinkPath property fields last) {place : String}
    {front back : List String} (parts : property :: fields = front ++ place :: back) :
    (∃ passed, table.LinkPath property passed place ∧ property :: passed = front ++ [place]) ∧
      table.LinkPath place back last := by
  induction path generalizing front with
  | here property =>
      cases front with
      | nil =>
          cases parts
          exact ⟨⟨[], .here _, rfl⟩, .here _⟩
      | cons => simp at parts
  | @step property field last fields linked rest inner =>
      cases front with
      | nil =>
          cases parts
          exact ⟨⟨[], .here _, rfl⟩, .step linked rest⟩
      | cons first front =>
          injection parts with same parts
          subst same
          obtain ⟨⟨passed, path, front'⟩, onward⟩ := inner parts
          exact ⟨⟨field :: passed, .step linked path, congrArg (property :: ·) front'⟩, onward⟩

/-- Of two paths from one property, one goes on where the other one stops. -/
theorem LinkPath.comparable {other : String} {fields' : List String}
    (path : table.LinkPath property fields last) (path' : table.LinkPath property fields' other) :
    (∃ onward, table.LinkPath last onward other) ∨ ∃ onward, table.LinkPath other onward last := by
  induction path generalizing fields' with
  | here => exact .inl ⟨fields', path'⟩
  | step linked rest inner =>
      cases path' with
      | here => exact .inr ⟨_, .step linked rest⟩
      | step linked' rest' =>
          rw [linked] at linked'
          cases linked'
          exact inner rest'

theorem LinkPath.ends (path : table.LinkPath property fields last) :
    table.Ends property ↔ table.Ends last := by
  induction path with
  | here => rfl
  | step linked _ inner =>
      rw [← inner]
      constructor
      · intro ends
        cases ends with
        | stop unlinked =>
            rw [unlinked] at linked
            cases linked
        | step linked' ends =>
            rw [linked] at linked'
            cases linked'
            exact ends
      · exact .step linked

/-! ## Loops -/

theorem IsLoop.mono (below : LinksBelow small large) (isLoop : small.IsLoop loop) :
    large.IsLoop loop := by
  cases loop with
  | nil => exact isLoop
  | cons => exact ⟨isLoop.1, isLoop.2.mono below⟩

/-- From the first member of a loop links lead to every member, and on through members back
to the first. -/
theorem IsLoop.through {first : String} {others : List String}
    (isLoop : table.IsLoop (first :: others)) (member : property ∈ first :: others) :
    ∃ passed next back, table.LinkPath first passed property ∧
      table.LinkPath property (next :: back) first ∧ next ∈ first :: others := by
  obtain ⟨front, back, parts⟩ := List.append_of_mem member
  have around : first :: (others ++ [first]) = front ++ property :: (back ++ [first]) := by
    rw [← List.cons_append, parts, List.append_assoc, List.cons_append]
  obtain ⟨⟨passed, path, _⟩, onward⟩ := isLoop.2.split around
  cases back with
  | nil => exact ⟨passed, first, [], path, onward, List.mem_cons_self⟩
  | cons next back =>
      refine ⟨passed, next, back ++ [first], path, onward, ?_⟩
      rw [parts]
      simp

/-- Every member of a loop is linked to a member. -/
theorem IsLoop.linked (isLoop : table.IsLoop loop) (member : property ∈ loop) :
    ∃ field ∈ loop, table.wrapField? property = some field := by
  cases loop with
  | nil => cases member
  | cons =>
      obtain ⟨_, next, _, _, onward, among⟩ := isLoop.through member
      cases onward with
      | step linked _ => exact ⟨next, among, linked⟩

/-- Links lead from every member of a loop to every member. -/
theorem IsLoop.around (isLoop : table.IsLoop loop) (member : property ∈ loop)
    (member' : last ∈ loop) : ∃ fields, table.LinkPath property fields last := by
  cases loop with
  | nil => cases member
  | cons =>
      obtain ⟨_, _, _, _, home, _⟩ := isLoop.through member
      obtain ⟨_, _, _, onward, _, _⟩ := isLoop.through member'
      exact ⟨_, home.append onward⟩

/-- Links lead from a member of a loop only to its members. -/
theorem IsLoop.closed (isLoop : table.IsLoop loop) (member : property ∈ loop)
    (path : table.LinkPath property fields last) : last ∈ loop := by
  induction path with
  | here => exact member
  | step linked _ inner =>
      obtain ⟨field, among, same⟩ := isLoop.linked member
      rw [linked] at same
      cases same
      exact inner among

/-- Loops with a common member have the same members. -/
theorem IsLoop.subset (isLoop : table.IsLoop loop) (isLoop' : table.IsLoop loop')
    (member : property ∈ loop) (member' : property ∈ loop') : loop ⊆ loop' := by
  intro other among
  obtain ⟨_, path⟩ := isLoop.around member among
  exact isLoop'.closed member' path

theorem IsLoop.not_ends (isLoop : table.IsLoop loop) (member : property ∈ loop) :
    ¬table.Ends property := by
  intro ends
  obtain ⟨field, among, linked⟩ := isLoop.linked member
  induction ends generalizing field with
  | stop unlinked =>
      rw [unlinked] at linked
      cases linked
  | step linked' _ inner =>
      rw [linked'] at linked
      cases linked
      obtain ⟨next, amongNext, linkedNext⟩ := isLoop.linked among
      exact inner among next amongNext linkedNext

/-- A property leads into no more than one loop. -/
theorem LeadsInto.subset (leads : table.LeadsInto property loop)
    (leads' : table.LeadsInto property loop') (isLoop : table.IsLoop loop)
    (isLoop' : table.IsLoop loop') : loop ⊆ loop' := by
  obtain ⟨_, member, path, among⟩ := leads
  obtain ⟨_, member', path', among'⟩ := leads'
  rcases path.comparable path' with ⟨_, onward⟩ | ⟨_, onward⟩
  · exact isLoop.subset isLoop' (isLoop.closed among onward) among'
  · exact isLoop.subset isLoop' among (isLoop'.closed among' onward)

theorem Meets.leadsInto {start first : String} (meets : table.Meets start loop first) :
    table.LeadsInto start loop := by
  obtain ⟨member, fields, _, path, _⟩ := meets
  exact ⟨fields, first, path, member⟩

theorem Meets.mono {start first : String} (below : LinksBelow small large)
    (meets : small.Meets start loop first) : large.Meets start loop first := by
  obtain ⟨member, fields, passed, path, parts, outside⟩ := meets
  exact ⟨member, fields, passed, path.mono below, parts, outside⟩

/-! ## Cutting from one property -/

/-- Following links from a property ends, or it meets a loop, whose rule that leads back to
the member met first is removed. -/
theorem cutFrom_spec {start current : String} {passed : List String}
    (path : table.LinkPath start passed current) (nodup : (start :: passed).Nodup) :
    (table.Ends start ∧ table.cutFrom (start :: passed) current = table) ∨
      ∃ loop first last, table.IsLoop loop ∧ table.Meets start loop first ∧ last ∈ loop ∧
        table.wrapField? last = some first ∧
        table.cutFrom (start :: passed) current = table.erase last := by
  generalize visited : start :: passed = seen
  fun_induction cutFrom table seen current generalizing passed with
  | case1 seen current unlinked => exact .inl ⟨path.ends.mpr (.stop unlinked), rfl⟩
  | case2 seen current field linked again =>
      subst visited
      right
      -- the loop starts where the field stands among the properties passed
      obtain ⟨front, back, parts⟩ := List.append_of_mem (List.contains_iff_mem.mp again)
      obtain ⟨⟨fields, way, ahead⟩, onward⟩ := path.split parts
      rw [parts] at nodup
      refine ⟨field :: back, field, current, ⟨nodup.of_append_right, onward.concat linked⟩,
        ⟨List.mem_cons_self, fields, front, way, ahead, ?_⟩, onward.last_mem, linked, rfl⟩
      intro property before inside
      exact List.disjoint_of_nodup_append nodup before inside
  | case3 seen current field linked new inner =>
      subst visited
      refine inner (path.concat linked) ?_ rfl
      rw [← List.cons_append]
      refine List.nodup_append.mpr ⟨nodup, List.nodup_singleton field, ?_⟩
      intro property before other among
      rw [List.mem_singleton.mp among]
      rintro rfl
      exact new (List.contains_iff_mem.mpr before)

/-! ## Removing one rule -/

theorem wrapField?_erase_of_ne (different : property ≠ removed) :
    (table.erase removed).wrapField? property = table.wrapField? property := by
  rw [wrapField?, wrapField?, get?_erase, if_neg different]

theorem LinkPath.erase (path : table.LinkPath property fields last)
    (kept : removed ∉ property :: fields) :
    (table.erase removed).LinkPath property fields last := by
  induction path with
  | here property => exact .here property
  | step linked _ inner =>
      obtain ⟨different, others⟩ := List.ne_and_not_mem_of_not_mem_cons kept
      exact .step ((wrapField?_erase_of_ne different.symm).trans linked) (inner others)

theorem IsLoop.not_mem_of_erase (isLoop : (table.erase removed).IsLoop loop) :
    removed ∉ loop := by
  intro member
  obtain ⟨_, _, linked⟩ := isLoop.linked member
  rw [wrapField?_erase_self] at linked
  cases linked

theorem IsLoop.erase (isLoop : table.IsLoop loop) (kept : removed ∉ loop) :
    (table.erase removed).IsLoop loop := by
  cases loop with
  | nil => exact isLoop
  | cons first others =>
      refine ⟨isLoop.1, isLoop.2.erase ?_⟩
      rw [← List.cons_append, List.mem_append, List.mem_singleton]
      rintro (member | rfl)
      · exact kept member
      · exact kept List.mem_cons_self

/-- To cut one loop changes no way into another one. -/
theorem leadsInto_erase_iff (isLoop : table.IsLoop loop) (isLoop' : table.IsLoop loop')
    (member : removed ∈ loop) (kept : removed ∉ loop') :
    (table.erase removed).LeadsInto property loop' ↔ table.LeadsInto property loop' := by
  constructor
  · rintro ⟨fields, last, path, among⟩
    exact ⟨fields, last, path.mono (erase_linksBelow table removed), among⟩
  · rintro ⟨fields, last, path, among⟩
    refine ⟨fields, last, path.erase ?_, among⟩
    -- the way would never leave the loop that the removed rule is on
    intro inside
    obtain ⟨front, back, parts⟩ := List.append_of_mem inside
    have common : last ∈ loop := isLoop.closed member (path.split parts).2
    exact kept (isLoop.subset isLoop' common among member)

/-! ## Cutting from all properties -/

/-- Of the loop one property loses its rule: the one linked to the member that is met first on
the way from the earliest of the names that lead into the loop. -/
def OpensAt (table : RuleTable) (names removed loop : List String) : Prop :=
  ∃ earlier start later first last, names = earlier ++ start :: later ∧
    (∀ name ∈ earlier, ¬table.LeadsInto name loop) ∧ table.Meets start loop first ∧
    last ∈ loop ∧ table.wrapField? last = some first ∧
    ∀ property ∈ loop, property ∈ removed ↔ property = last

theorem OpensAt.cons {name : String} {names cut : List String}
    (opens : table.OpensAt names cut loop) (past : ¬table.LeadsInto name loop) :
    table.OpensAt (name :: names) cut loop := by
  obtain ⟨earlier, start, later, first, last, parts, others, opens⟩ := opens
  refine ⟨name :: earlier, start, later, first, last, congrArg (name :: ·) parts, ?_, opens⟩
  intro other among
  rcases List.mem_cons.mp among with rfl | among
  · exact past
  · exact others other among

/-- A loop that stays when a rule of another one is removed is opened alike. -/
theorem OpensAt.of_erase {names cut : List String} (isLoop : table.IsLoop loop)
    (isLoop' : table.IsLoop loop') (member : removed ∈ loop) (kept : removed ∉ loop')
    (opens : (table.erase removed).OpensAt names cut loop') :
    table.OpensAt names (removed :: cut) loop' := by
  obtain ⟨earlier, start, later, first, last, parts, others, meets, among, closing, opens⟩ := opens
  have below := erase_linksBelow table removed
  refine ⟨earlier, start, later, first, last, parts, ?_, meets.mono below, among,
    below _ _ closing, ?_⟩
  · intro name before leads
    exact others name before ((leadsInto_erase_iff isLoop isLoop' member kept).mpr leads)
  · intro property inside
    have different : property ≠ removed := by
      rintro rfl
      exact kept inside
    rw [List.mem_cons, opens property inside]
    exact or_iff_right different

/-- The loop that the first name meets, perhaps written from another member on. -/
theorem OpensAt.of_meets {name first : String} {names cut : List String}
    (isLoop : table.IsLoop loop) (isLoop' : table.IsLoop loop')
    (meets : table.Meets name loop first) (member : last ∈ loop) (common : last ∈ loop')
    (closing : table.wrapField? last = some first)
    (apart : ∀ property ∈ cut, ∃ other, table.IsLoop other ∧ property ∈ other ∧ last ∉ other) :
    table.OpensAt (name :: names) (last :: cut) loop' := by
  have into : loop ⊆ loop' := isLoop.subset isLoop' member common
  have back : loop' ⊆ loop := isLoop'.subset isLoop common member
  obtain ⟨firstMember, fields, passed, path, parts, outside⟩ := meets
  have outside' : ∀ property ∈ passed, property ∉ loop' :=
    fun property before inside => outside property before (back inside)
  refine ⟨[], name, names, first, last, rfl, nofun,
    ⟨into firstMember, fields, passed, path, parts, outside'⟩, common, closing, ?_⟩
  intro property inside
  rw [List.mem_cons, or_iff_left_iff_imp]
  intro removed
  obtain ⟨other, isOther, shared, without⟩ := apart property removed
  exact absurd (isLoop'.subset isOther inside shared common) without

theorem filter_erase (entries : List (String × Rule)) (cut : List String) :
    (RuleTable.erase ⟨entries⟩ removed).entries.filter (fun entry => !cut.contains entry.1) =
      entries.filter fun entry => !(removed :: cut).contains entry.1 := by
  rw [RuleTable.erase, List.filter_filter]
  congr 1
  funext entry
  rw [List.contains_cons, Bool.not_or, Bool.and_comm, bne, Bool.beq_comm]

/-- Cutting from some properties in order removes rules of loops only, and one of each loop
that one of the properties leads into. -/
theorem foldl_cutFrom_spec (names : List String) (table : RuleTable) :
    ∃ cut : List String,
      (names.foldl (fun table name => table.cutFrom [name] name) table).entries =
          table.entries.filter (fun entry => !cut.contains entry.1) ∧
        (∀ property ∈ cut, ∃ loop, table.IsLoop loop ∧ property ∈ loop) ∧
        ∀ loop, table.IsLoop loop → (∃ name ∈ names, table.LeadsInto name loop) →
          table.OpensAt names cut loop := by
  induction names generalizing table with
  | nil => exact ⟨[], by simp, nofun, fun _ _ ⟨_, member, _⟩ => nomatch member⟩
  | cons name names inner =>
      rw [List.foldl_cons]
      rcases cutFrom_spec (.here name) (List.nodup_singleton name) with
        ⟨ends, uncut⟩ | ⟨loop, first, last, isLoop, meets, member, closing, cutLoop⟩
      · obtain ⟨cut, entries, onLoops, opens⟩ := inner table
        rw [uncut]
        refine ⟨cut, entries, onLoops, ?_⟩
        rintro loop isLoop ⟨start, among, leads⟩
        have past : ¬table.LeadsInto name loop := by
          rintro ⟨_, last, path, inside⟩
          exact isLoop.not_ends inside (path.ends.mp ends)
        rcases List.mem_cons.mp among with rfl | among
        · exact absurd leads past
        · exact (opens loop isLoop ⟨start, among, leads⟩).cons past
      · obtain ⟨cut, entries, onLoops, opens⟩ := inner (table.erase last)
        have onLoop : ∀ property ∈ cut, ∃ other, table.IsLoop other ∧ property ∈ other ∧
            last ∉ other := by
          intro property among
          obtain ⟨other, isOther, inside⟩ := onLoops property among
          exact ⟨other, isOther.mono (erase_linksBelow table last), inside,
            isOther.not_mem_of_erase⟩
        rw [cutLoop]
        refine ⟨last :: cut, entries.trans (filter_erase table.entries cut), ?_, ?_⟩
        · intro property among
          rcases List.mem_cons.mp among with rfl | among
          · exact ⟨loop, isLoop, member⟩
          · obtain ⟨other, isOther, inside, _⟩ := onLoop property among
            exact ⟨other, isOther, inside⟩
        · rintro other isOther ⟨start, among, leads⟩
          by_cases common : last ∈ other
          · exact .of_meets isLoop isOther meets member common closing onLoop
          · have past : ¬table.LeadsInto name other := fun leads =>
              common (meets.leadsInto.subset leads isLoop isOther member)
            rcases List.mem_cons.mp among with rfl | among
            · exact absurd leads past
            · refine (OpensAt.of_erase isLoop isOther member common ?_).cons past
              exact opens other (isOther.erase common)
                ⟨start, among, (leadsInto_erase_iff isLoop isOther member common).mpr leads⟩

/-- The members of a loop have rules. -/
theorem IsLoop.mem_names (isLoop : table.IsLoop loop) (member : property ∈ loop) :
    property ∈ table.names := by
  obtain ⟨field, _, linked⟩ := isLoop.linked member
  rw [← get?_isSome_iff, wrapField?_eq_some_iff.mp linked]
  rfl

theorem IsLoop.exists_mem (isLoop : table.IsLoop loop) : ∃ property, property ∈ loop := by
  cases loop with
  | nil => exact isLoop.elim
  | cons first => exact ⟨first, List.mem_cons_self⟩

end RuleTable

namespace Schema

theorem names_scannedRules_nodup (schema : Schema) (wrapperFields : List String) :
    (schema.scannedRules wrapperFields).names.Nodup := by
  rw [scannedRules_eq, RuleTable.names_addAll]
  exact RuleTable.nodup_eraseDups _

/-- Cutting the loops of the scanned rules removes wrapping rules of loops and nothing else,
and leaves the other rules in their order.  Each loop loses exactly one rule: the one whose
field is the first member of the loop that is met when following links from the earliest
property, in the order of the table, that leads into the loop. -/
theorem each_loop_loses_one_rule (schema : Schema) (wrapperFields : List String) :
    let table := schema.scannedRules wrapperFields
    table.names.Nodup ∧ ∃ cut : List String,
      table.cutLoops.entries = table.entries.filter (fun entry => !cut.contains entry.1) ∧
      (∀ property ∈ cut, (∃ field, table.get? property = some (.wrapInObject field)) ∧
        ∃ loop, table.IsLoop loop ∧ property ∈ loop) ∧
      ∀ loop, table.IsLoop loop →
        ∃ earlier start later first last,
          table.names = earlier ++ start :: later ∧
          (∀ name ∈ earlier, ¬table.LeadsInto name loop) ∧ table.Meets start loop first ∧
          last ∈ loop ∧ table.wrapField? last = some first ∧
          ∀ property ∈ loop, property ∈ cut ↔ property = last := by
  intro table
  obtain ⟨cut, entries, onLoops, opens⟩ := RuleTable.foldl_cutFrom_spec table.names table
  refine ⟨schema.names_scannedRules_nodup wrapperFields, cut, entries, ?_, ?_⟩
  · intro property among
    obtain ⟨loop, isLoop, inside⟩ := onLoops property among
    obtain ⟨field, _, linked⟩ := isLoop.linked inside
    exact ⟨⟨field, RuleTable.wrapField?_eq_some_iff.mp linked⟩, loop, isLoop, inside⟩
  · intro loop isLoop
    obtain ⟨property, inside⟩ := isLoop.exists_mem
    exact opens loop isLoop
      ⟨property, isLoop.mem_names inside, [], property, .here property, inside⟩

/-- A schema in which a job wraps under `name`, and `name` and `environment` under each
other. -/
def jobSchema : Schema :=
  let text : Node := { Node.any with types := [.string] }
  let wrapping (field : String) : Node := { Node.any with
    oneOf := [text, { Node.any with types := [.object], properties := [(field, text)] }] }
  ⟨"", { Node.any with
    properties := [("job", wrapping "name"), ("environment", wrapping "name"),
      ("name", wrapping "environment")] }, []⟩

/-- The job meets the loop at `name`, so that it is `environment` that loses its rule. -/
theorem each_loop_loses_one_rule_on_job :
    let table := jobSchema.scannedRules ["name", "environment"]
    table.names = ["job", "environment", "name"] ∧ table.IsLoop ["environment", "name"] ∧
      table.cutLoops.names = ["job", "name"] ∧
      ∃ earlier start later first last, table.names = earlier ++ start :: later ∧
        table.Meets start ["environment", "name"] first ∧
        last ∈ ["environment", "name"] ∧ table.wrapField? last = some first := by
  intro table
  have isLoop : table.IsLoop ["environment", "name"] :=
    ⟨by decide, .step (by decide +kernel) (.step (by decide +kernel) (.here _))⟩
  obtain ⟨_, _, _, _, opens⟩ := each_loop_loses_one_rule jobSchema ["name", "environment"]
  obtain ⟨earlier, start, later, first, last, names, _, meets, among, closing, _⟩ :=
    opens _ isLoop
  exact ⟨by decide +kernel, isLoop, by decide +kernel, earlier, start, later, first, last, names,
    meets, among, closing⟩

end Schema

end Pipewright
