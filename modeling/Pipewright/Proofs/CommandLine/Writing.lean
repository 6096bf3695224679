import Pipewright.CommandLine.Files
import Pipewright.Proofs.CommandLine.FileNames

/-!
# Reading back what was written

A file that was written into a directory is read back from there.  Writing it leaves what is
read under other names of the directory as it is: the directory is found in the same place
afterwards, since writing takes nothing away, and the file has a place of its own in it.
-/

namespace Pipewright

namespace FileTree

variable {tree tree' : FileTree} {place target : List String} {name text : String}

/-! ## Following a path -/

/-- Where a part of a path leads from a directory. -/
inductive Leads (tree : FileTree) (place : List String) : String → List String → Prop where
  | here {part : String} : part = "" ∨ part = "." → Leads tree place part place
  | up : place ≠ [] → Leads tree place ".." place.dropLast
  | down {part : String} : part ≠ "" → part ≠ "." → part ≠ ".." →
      tree.hasFile (place ++ [part]) = true ∨ tree.hasDirectory (place ++ [part]) = true →
      Leads tree place part (place ++ [part])

theorem walkFrom_cons_eq_ok_iff {part : String} {rest : List String} :
    tree.walkFrom place (part :: rest) = .ok target ↔
      tree.hasDirectory place = true ∧
        ∃ next, Leads tree place part next ∧ tree.walkFrom next rest = .ok target := by
  constructor
  · intro found
    unfold FileTree.walkFrom at found
    split at found
    · next directory =>
        refine ⟨directory, ?_⟩
        split at found
        · next here => exact ⟨place, .here here, found⟩
        · next named =>
            obtain ⟨notEmpty, notHere⟩ := not_or.mp named
            split at found
            · next up =>
                split at found
                · cases found
                · next inside =>
                    subst up
                    exact ⟨_, .up fun empty => inside (List.isEmpty_iff.mpr empty), found⟩
            · next notUp =>
                dsimp only at found
                split at found
                · next present =>
                    exact ⟨_, .down notEmpty notHere notUp (Bool.or_eq_true_iff.mp present), found⟩
                · cases found
    · cases found
  · rintro ⟨directory, next, leads, found⟩
    unfold FileTree.walkFrom
    rw [if_pos directory]
    cases leads with
    | here here => rw [if_pos here, found]
    | up inside =>
        rw [if_neg (by decide), if_pos rfl, if_neg (mt List.isEmpty_iff.mp inside), found]
    | down notEmpty notHere notUp present =>
        rw [if_neg (not_or.mpr ⟨notEmpty, notHere⟩), if_neg notUp]
        dsimp only
        rw [if_pos (Bool.or_eq_true_iff.mpr present), found]

theorem walkFrom_append_eq_ok_iff {front back : List String} :
    tree.walkFrom place (front ++ back) = .ok target ↔
      ∃ next, tree.walkFrom place front = .ok next ∧ tree.walkFrom next back = .ok target := by
  induction front generalizing place with
  | nil =>
      constructor
      · intro found
        exact ⟨place, rfl, found⟩
      · rintro ⟨_, ⟨⟩, found⟩
        exact found
  | cons part rest inner =>
      simp only [List.cons_append, walkFrom_cons_eq_ok_iff, inner]
      constructor
      · rintro ⟨directory, next, leads, further, walked, found⟩
        exact ⟨further, ⟨directory, next, leads, walked⟩, found⟩
      · rintro ⟨further, ⟨directory, next, leads, walked⟩, found⟩
        exact ⟨directory, next, leads, further, walked, found⟩

/-- A proper name leads to what has it in a directory. -/
theorem walkFrom_name_eq_ok_iff (proper : FileName.IsProper name) :
    tree.walkFrom place [name] = .ok target ↔
      tree.hasDirectory place = true ∧ target = place ++ [name] ∧
        (tree.hasFile target = true ∨ tree.hasDirectory target = true) := by
  rw [walkFrom_cons_eq_ok_iff]
  refine and_congr_right fun directory => ?_
  constructor
  · rintro ⟨next, leads, ⟨⟩⟩
    cases leads with
    | here here => exact absurd here (not_or.mpr ⟨proper.notEmpty, proper.notHere⟩)
    | up => exact absurd rfl proper.notUp
    | down _ _ _ present => exact ⟨rfl, present⟩
  · rintro ⟨rfl, present⟩
    exact ⟨_, .down proper.notEmpty proper.notHere proper.notUp present, rfl⟩

/-! ## What stays in place -/

/-- The directories and files that are there stay there. -/
structure Keeps (before after : FileTree) : Prop where
  directories : ∀ place, before.hasDirectory place = true → after.hasDirectory place = true
  files : ∀ place, before.hasFile place = true → after.hasFile place = true

theorem Keeps.leads (keeps : Keeps tree tree') {part : String}
    (leads : Leads tree place part target) : Leads tree' place part target := by
  cases leads with
  | here here => exact .here here
  | up inside => exact .up inside
  | down notEmpty notHere notUp present =>
      exact .down notEmpty notHere notUp (present.imp (keeps.files _) (keeps.directories _))

/-- Where a path led, it still leads. -/
theorem Keeps.walkFrom (keeps : Keeps tree tree') {parts : List String}
    (found : tree.walkFrom place parts = .ok target) :
    tree'.walkFrom place parts = .ok target := by
  induction parts generalizing place with
  | nil => exact found
  | cons part rest inner =>
      obtain ⟨directory, next, leads, further⟩ := walkFrom_cons_eq_ok_iff.mp found
      exact walkFrom_cons_eq_ok_iff.mpr
        ⟨keeps.directories _ directory, next, keeps.leads leads, inner further⟩

/-! ## Putting a text at a place -/

theorem lookup_replaced (files : List (List String × String)) (place : List String)
    (text : String) (other : List String) :
    (files.map fun file => if file.1 == place then (place, text) else file).lookup other =
      if other = place then (files.lookup other).map fun _ => text else files.lookup other := by
  induction files with
  | nil => split <;> rfl
  | cons file rest inner =>
      obtain ⟨key, content⟩ := file
      rw [List.map_cons, List.lookup_cons]
      by_cases replaced : key = place
      · subst replaced
        simp only [beq_self_eq_true, if_true]
        rw [List.lookup_cons, inner]
        by_cases same : other = key
        · simp [same]
        · simp [same, beq_false_of_ne same]
      · simp only [beq_false_of_ne replaced, Bool.false_eq_true, if_false]
        rw [List.lookup_cons, inner]
        by_cases same : other = key
        · simp [same, replaced]
        · simp [beq_false_of_ne same]

theorem lookup_put (tree : FileTree) (place : List String) (text : String)
    (other : List String) :
    (tree.put place text).files.lookup other =
      if other = place then some text else tree.files.lookup other := by
  unfold put
  split
  · next present =>
      rw [lookup_replaced]
      split
      · next same =>
          subst same
          obtain ⟨old, found⟩ := Option.isSome_iff_exists.mp present
          rw [found, Option.map_some]
      · rfl
  · next absent =>
      have missing : tree.files.lookup place = none := Option.not_isSome_iff_eq_none.mp absent
      rw [List.lookup_append, List.lookup_cons]
      by_cases same : other = place
      · rw [same, missing, beq_self_eq_true, if_pos rfl]
        rfl
      · rw [beq_false_of_ne same, if_neg same]
        exact Option.or_none

theorem places_put_subset (tree : FileTree) (place : List String) (text : String) :
    tree.places ⊆ (tree.put place text).places := by
  unfold put places
  split
  · have sameKeys : (tree.files.map fun file =>
        if file.1 == place then (place, text) else file).map (·.1) = tree.files.map (·.1) := by
      rw [List.map_map]
      refine List.map_congr_left fun file _ => ?_
      by_cases same : file.1 = place
      · simp [same]
      · simp [same]
    rw [sameKeys]
    exact List.Subset.refl _
  · intro other listed
    rw [List.map_append, List.append_assoc]
    rcases List.mem_append.mp listed with file | directory
    · exact List.mem_append_left _ file
    · exact List.mem_append_right _ (List.mem_append_right _ directory)

theorem keeps_put (tree : FileTree) (place : List String) (text : String) :
    Keeps tree (tree.put place text) := by
  refine ⟨fun other directory => ?_, fun other file => ?_⟩
  · have sameDirectories : (tree.put place text).directories = tree.directories := by
      unfold put
      split <;> rfl
    simp only [hasDirectory, Bool.or_eq_true, List.any_eq_true, sameDirectories] at directory ⊢
    refine directory.imp_right fun ⟨below, listed, isBelow⟩ => ?_
    exact ⟨below, places_put_subset tree place text listed, isBelow⟩
  · rw [hasFile, lookup_put]
    split
    · rfl
    · exact file

/-- A change that fails leaves the tree as it is. -/
theorem change_run (operation : FileTree → Except FileFault FileTree) (tree : FileTree) :
    (change operation).run tree =
      match operation tree with
      | .ok changed => (.ok (), changed)
      | .error fault => (.error fault, tree) := by
  rw [change, StateT.run_bind, StateT.run_get]
  change StateT.run (match operation tree with | .ok _ => _ | .error _ => _) tree = _
  cases operation tree <;> rfl

/-! ## Entries of a directory -/

variable {directory other content : String}

/-- The path of an entry of a directory inside the tree is followed to the directory and from
there to the entry. -/
theorem locate_join (proper : FileName.IsProper name)
    (inside : (FileName.join directory name).startsWith "/" = false) :
    tree.locate (FileName.join directory name) =
      tree.walkFrom [] (FileName.leading directory ++ [name]) := by
  have parts := FileName.parts_join proper.noSlash directory
  have nonempty : (FileName.join directory name).isEmpty = false := by
    rw [Bool.eq_false_iff]
    intro empty
    rw [String.isEmpty_iff.mp empty] at parts
    have last := congrArg List.getLast? parts
    rw [List.getLast?_append] at last
    exact proper.notEmpty (Option.some.inj last).symm
  rw [locate, nonempty, inside, parts]
  rfl

theorem not_rooted_of_locate (found : tree.locate (FileName.join directory name) = .ok target) :
    (FileName.join directory name).startsWith "/" = false := by
  rw [Bool.eq_false_iff]
  intro rooted
  rw [locate, rooted] at found
  split at found
  · cases found
  · cases found

/-- An entry is read from its place in the directory. -/
theorem readText_join_eq_ok_iff (proper : FileName.IsProper name) :
    tree.readText (FileName.join directory name) = .ok content ↔
      (FileName.join directory name).startsWith "/" = false ∧
        ∃ place, tree.walkFrom [] (FileName.leading directory) = .ok place ∧
          tree.hasDirectory place = true ∧
            tree.files.lookup (place ++ [name]) = some content := by
  constructor
  · intro read
    unfold readText at read
    cases found : tree.locate (FileName.join directory name) with
    | error fault =>
        rw [found] at read
        cases read
    | ok target =>
        have inside := not_rooted_of_locate found
        have walked := found
        rw [locate_join proper inside] at walked
        obtain ⟨place, led, last⟩ := walkFrom_append_eq_ok_iff.mp walked
        obtain ⟨isDirectory, rfl, -⟩ := (walkFrom_name_eq_ok_iff proper).mp last
        refine ⟨inside, place, led, isDirectory, ?_⟩
        rw [found] at read
        cases text : tree.files.lookup (place ++ [name]) with
        | none =>
            simp only [bind, Except.bind, text] at read
            cases read
        | some text' =>
            simp only [bind, Except.bind, text] at read
            cases read
            rfl
  · rintro ⟨inside, place, led, isDirectory, text⟩
    have file : tree.hasFile (place ++ [name]) = true := by rw [hasFile, text, Option.isSome_some]
    have found : tree.locate (FileName.join directory name) = .ok (place ++ [name]) := by
      rw [locate_join proper inside]
      exact walkFrom_append_eq_ok_iff.mpr
        ⟨place, led, (walkFrom_name_eq_ok_iff proper).mpr ⟨isDirectory, rfl, .inl file⟩⟩
    unfold readText
    rw [found]
    simp only [bind, Except.bind, text]
    rfl

/-- What a successful write does. -/
theorem writeText_cases (proper : FileName.IsProper name)
    (written : tree.writeText (FileName.join directory name) text = .ok tree') :
    (FileName.join directory name).startsWith "/" = false ∧
      ∃ place, tree.walkFrom [] (FileName.leading directory) = .ok place ∧
        tree.hasDirectory place = true ∧ tree' = tree.put (place ++ [name]) text := by
  unfold writeText at written
  cases inside : (FileName.join directory name).startsWith "/" with
  | true =>
      rw [inside] at written
      cases written
  | false =>
      refine ⟨rfl, ?_⟩
      simp only [inside, FileName.parts_join proper.noSlash, List.dropLast_concat,
        List.getLastD_concat, Bool.false_eq_true, if_false] at written
      cases led : tree.walkFrom [] (FileName.leading directory) with
      | error fault =>
          rw [led] at written
          cases written
      | ok place =>
          rw [led] at written
          dsimp only [bind, Except.bind] at written
          split at written
          · cases written
          · next isDirectory =>
              rw [Bool.not_eq_true, Bool.not_eq_false'] at isDirectory
              split at written
              · cases written
              · cases written
                exact ⟨place, rfl, isDirectory, rfl⟩

theorem keeps_writeText (proper : FileName.IsProper name)
    (written : tree.writeText (FileName.join directory name) text = .ok tree') :
    Keeps tree tree' := by
  obtain ⟨-, place, -, -, rfl⟩ := writeText_cases proper written
  exact keeps_put tree _ text

/-- What was written is read back. -/
theorem readText_writeText (proper : FileName.IsProper name)
    (written : tree.writeText (FileName.join directory name) text = .ok tree') :
    tree'.readText (FileName.join directory name) = .ok text := by
  have keeps := keeps_writeText proper written
  obtain ⟨inside, place, led, isDirectory, rfl⟩ := writeText_cases proper written
  refine (readText_join_eq_ok_iff proper).mpr
    ⟨inside, place, keeps.walkFrom led, keeps.directories _ isDirectory, ?_⟩
  rw [lookup_put, if_pos rfl]

/-- Writing a file leaves the files under other names of the directory as they are. -/
theorem readText_writeText_of_ne (proper : FileName.IsProper name)
    (otherProper : FileName.IsProper other) (different : other ≠ name)
    (written : tree.writeText (FileName.join directory name) text = .ok tree')
    (read : tree.readText (FileName.join directory other) = .ok content) :
    tree'.readText (FileName.join directory other) = .ok content := by
  have keeps := keeps_writeText proper written
  obtain ⟨-, place, led, -, rfl⟩ := writeText_cases proper written
  obtain ⟨inside, place', led', isDirectory, there⟩ :=
    (readText_join_eq_ok_iff otherProper).mp read
  -- both names are looked up in the same directory
  have samePlace : place' = place := Except.ok.inj (led'.symm.trans led)
  subst samePlace
  refine (readText_join_eq_ok_iff otherProper).mpr
    ⟨inside, place', keeps.walkFrom led, keeps.directories _ isDirectory, ?_⟩
  have elsewhere : place' ++ [other] ≠ place' ++ [name] := fun same =>
    different (List.cons.inj (List.append_cancel_left same)).1
  rw [lookup_put, if_neg elsewhere, there]

end FileTree

end Pipewright
