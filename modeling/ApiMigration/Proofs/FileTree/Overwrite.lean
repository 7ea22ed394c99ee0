import ApiMigration.Proofs.FileTree.Chain
import ApiMigration.Proofs.FileTree.Contents
import ApiMigration.Proofs.FileTree.Spelled

/-!
Writing to where a path leads, in a tree that may hold links. What can be read can be written and is
then read back, and a write with the directories it needs that fails once fails ever after.
-/

namespace ApiMigration

namespace Path

theorem exists_text_parent? {path parent : Path} (above : path.parent? = some parent) :
    ∃ more, path.text = parent.text ++ more := by
  unfold parent? at above
  split at above
  · next upper cut =>
    cases above
    have shorter := (exists_last_of_dropLast? cut).1
    apply exists_text_ofParts
    unfold body at shorter
    cases here : path.startsHere with
    | true =>
      rw [here, if_pos rfl] at shorter
      rw [if_pos rfl, parts_eq_of_startsHere here, List.prefix_cons_inj]
      simpa [parts_eq_of_startsHere here] using shorter
    | false =>
      rw [here, if_neg Bool.false_ne_true] at shorter
      exact shorter
  · split at above
    · cases above
      exact ⟨path.text, by simp⟩
    · cases above

end Path

namespace FileTree

section Trails

variable {tree : FileTree} {approach : Approach} {links : Nat} {here place : Location}
  {parts : List String}

theorem Trail.place_of_slashes (trail : Trail tree approach links here parts place)
    (slashes : parts.all (· == "") = true) : place = here := by
  have empty {part : String} {rest : List String}
      (slashes : (part :: rest).all (· == "") = true) :
      part = "" ∧ rest.all (· == "") = true := by
    simpa only [List.all_cons, Bool.and_eq_true, beq_iff_eq] using slashes
  induction trail with
  | stop => rfl
  | stay _ _ ih => exact ih (empty slashes).2
  | up => simp at slashes
  | enter named _ _ _ => exact absurd (.inl (empty slashes).1) named.solid
  | reach named _ _ => exact absurd (.inl (empty slashes).1) named.solid
  | follow named _ _ _ _ => exact absurd (.inl (empty slashes).1) named.solid

theorem Trail.toFile {bytes : List UInt8} (nested : tree.Nested)
    (entered : tree.get? here = some .directory) (trail : Trail tree {} links here parts place)
    (held : tree.get? place = some (.file bytes)) :
    Trail tree { wantsFile := true } links here parts place := by
  -- Slashes after a name keep the way inside the directory that the name leads to.
  have bare (front : List String) {links : Nat} {here place : Location} {rest : List String}
      (entered : tree.get? here = some .directory)
      (onward : Trail tree {} links here (front ++ rest) place)
      (held : tree.get? place = some (.file bytes)) :
      ¬ (true = true ∧ rest ≠ [] ∧ rest.all (· == "") = true) := by
    rintro ⟨-, further, slashes⟩
    obtain ⟨_, middle, _, directory, last⟩ := onward.cut nested entered further
    rw [last.place_of_slashes slashes, directory] at held
    cases held
  induction trail with
  | stop => exact .stop
  | stay void _ ih => exact .stay void (ih entered held)
  | up _ ih => exact .up (ih (nested.above entered) held)
  | enter named directory onward ih =>
    exact .enter ⟨named.solid, named.downward, bare [] directory onward held, named.short⟩
      directory (ih directory held)
  | reach named free unfollowed =>
    exact .reach ⟨named.solid, named.downward, by simp, named.short⟩ free unfollowed
  | @follow links here place part rest target named link followed onward ih =>
    have started : tree.get? (if target.isAbsolute then [] else here) = some .directory := by
      split
      · exact tree.get?_root
      · exact entered
    exact .follow ⟨named.solid, named.downward, bare _ started onward held, named.short⟩ link
      followed (ih started held)

theorem Trail.fromFile (trail : Trail tree { wantsFile := true } links here parts place) :
    Trail tree {} links here parts place := by
  induction trail with
  | stop => exact .stop
  | stay void _ ih => exact .stay void ih
  | up _ ih => exact .up ih
  | enter named directory _ ih => exact .enter (named.relax _) directory ih
  | reach named free unfollowed => exact .reach (named.relax _) free unfollowed
  | follow named link followed _ ih => exact .follow (named.relax _) link followed ih

theorem Trail.place_ne_link (nested : tree.Nested) (entered : tree.get? here = some .directory)
    (followed : approach.followLast = true) (trail : Trail tree approach links here parts place)
    (target : Path) : tree.get? place ≠ some (.link target) := by
  induction trail with
  | stop =>
    rw [entered]
    simp
  | stay _ _ ih => exact ih entered
  | up _ ih => exact ih (nested.above entered)
  | enter _ directory _ ih => exact ih directory
  | reach _ _ unfollowed =>
    intro link
    rw [unfollowed target link] at followed
    cases followed
  | follow _ _ _ _ ih =>
    apply ih
    split
    · exact tree.get?_root
    · exact entered

end Trails

section Parent

variable {tree : FileTree} {path : Path} {approach : Approach} {place : Location}

theorem Proper.hasParent (proper : tree.Proper) (located : tree.locate path approach = .ok place) :
    tree.HasParent path := by
  intro parent above
  by_cases written : parent.text = ""
  · exact .inl written
  right
  obtain ⟨same, last, kept⟩ := Path.parent?_starts above written
  have whole : (path.parts.map String.ofList).filter isSolid =
      (parent.parts.map String.ofList).filter isSolid ++ String.ofList last :: [] := by
    rw [filter_map_ofList, kept, List.map_append, filter_map_ofList]
    rfl
  obtain ⟨before, rest, split, front, _⟩ := Path.exists_cut whole
  have admissible := admissible_of_locate located
  rw [locate_eq_walk admissible, walk_eq_ok_iff_trail, split] at located
  obtain ⟨_, middle, first, directory, _⟩ :=
    located.cut proper.inDirectory (proper.start path) (by simp)
  obtain ⟨more, longer⟩ := Path.exists_text_parent? above
  have started : tree.start parent = tree.start path := by
    rw [FileTree.start, FileTree.start, same]
  refine isDirectory_iff.mpr ⟨middle, ?_, directory⟩
  rw [locate_eq_walk (admissible.of_text longer written), walk_eq_ok_iff_trail, started]
  exact first.of_filter directory front.symm

end Parent

section Write

variable {tree after : FileTree} {path : Path} {bytes : List UInt8}

theorem write_eq_ok_iff :
    tree.write path bytes = .ok after ↔
      ∃ place, tree.locate path { wantsFile := true } = .ok place ∧
        tree.get? place ≠ some .directory ∧ after = tree.set place (.file bytes) := by
  unfold write
  cases tree.locate path { wantsFile := true } with
  | error failure => simp [bind, Except.bind]
  | ok place =>
    by_cases directory : tree.get? place = some .directory
    · simp [bind, Except.bind, directory]
    · simp only [bind, Except.bind, directory, if_false, Except.ok.injEq, exists_eq_left', ne_eq,
        not_false_eq_true, true_and]
      exact eq_comm

theorem locate_of_wantsFile {place : Location}
    (located : tree.locate path { wantsFile := true } = .ok place) :
    tree.locate path = .ok place := by
  have admissible := admissible_of_locate located
  rw [locate_eq_walk admissible, walk_eq_ok_iff_trail] at located ⊢
  exact located.fromFile

theorem Proper.write (proper : tree.Proper) (wrote : tree.write path bytes = .ok after) :
    after.Proper ∧ after.read path = .ok bytes := by
  obtain ⟨place, located, solid, rfl⟩ := write_eq_ok_iff.mp wrote
  have reached := locate_of_wantsFile located
  cases held : tree.get? place with
  | none =>
    refine ⟨proper.set located held, read_eq_ok_iff.mpr ⟨place, ?_, ?_⟩⟩
    · exact locate_extend (.set _ held) (linksWithin_set held (by simp)) reached
    · rw [get?_set_of_absent _ held, if_pos rfl]
  | some entry =>
    cases entry with
    | directory => exact absurd held solid
    | link target =>
      rw [locate_eq_walk (admissible_of_locate located), walk_eq_ok_iff_trail] at located
      exact absurd held (located.place_ne_link proper.inDirectory (proper.start path) rfl target)
    | file old =>
      have same := SameShape.setFile held bytes
      have below : place ≠ [] := by
        rintro rfl
        simp at held
      refine ⟨same.proper proper, read_eq_ok_iff.mpr ⟨place, ?_, ?_⟩⟩
      · rw [same.locate_eq, reached]
      · rw [get?_set _ below, if_pos rfl]

theorem Proper.exists_write (proper : tree.Proper) {old : List UInt8}
    (read : tree.read path = .ok old) (bytes : List UInt8) :
    ∃ after, tree.write path bytes = .ok after := by
  obtain ⟨place, located, held⟩ := read_eq_ok_iff.mp read
  refine ⟨_, write_eq_ok_iff.mpr ⟨place, ?_, by simp [held], rfl⟩⟩
  have admissible := admissible_of_locate located
  rw [locate_eq_walk admissible, walk_eq_ok_iff_trail] at located ⊢
  exact located.toFile proper.inDirectory (proper.start path) held

theorem MakesDirectories.read {left : FileTree} (made : MakesDirectories tree left)
    {bytes : List UInt8} (read : tree.read path = .ok bytes) : left.read path = .ok bytes := by
  obtain ⟨_, grown, _⟩ := made.grown
  obtain ⟨place, located, held⟩ := read_eq_ok_iff.mp read
  exact read_eq_ok_iff.mpr ⟨place, grown.locate located, grown.extend.get? held⟩

end Write

section Again

variable {tree made left : FileTree} {path : Path}

theorem makeChain_again {chain : List Path} (success : tree.makeChain chain = (made, .ok ())) :
    made.makeChain chain = (made, .ok ()) := by
  cases chain with
  | nil => rfl
  | cons path above => exact makeChain_of_isDirectory (isDirectory_of_makeChain success)

theorem makeParent_again (success : tree.makeParent path = (made, .ok ())) :
    made.makeParent path = (made, .ok ()) :=
  makeParent_of_hasParent (hasParent_of_makeParent success)

theorem Proper.makeDirectory_fails {parent : Path} (proper : tree.Proper)
    (above : path.parent? = some parent) (written : parent.text ≠ "")
    (missing : tree.isDirectory parent = false) :
    tree.isDirectory path = false ∧ ∃ error, tree.makeDirectory path = .error error := by
  have unreached {approach : Approach} {place : Location} :
      tree.locate path approach ≠ .ok place := by
    intro located
    rcases proper.hasParent located parent above with blank | present
    · exact written blank
    · rw [missing] at present
      cases present
  constructor
  · rw [Bool.eq_false_iff]
    intro directory
    obtain ⟨place, located, -⟩ := isDirectory_iff.mp directory
    exact unreached located
  · cases outcome : tree.makeDirectory path with
    | error error => exact ⟨error, rfl⟩
    | ok made =>
      obtain ⟨place, located, -⟩ := makeDirectory_eq_ok_iff.mp outcome
      exact absurd located unreached

theorem makeChain_of_error {above : List Path} {error : FileError} {result : Except FileError Unit}
    (written : path.text ≠ "") (missing : tree.isDirectory path = false)
    (fails : tree.makeDirectory path = .error error)
    (upper : tree.makeChain above = (tree, result)) :
    ∃ error, tree.makeChain (path :: above) = (tree, .error error) := by
  rw [makeChain, if_neg written, fails]
  by_cases absent : error = .notFound
  · subst absent
    cases result with
    | error error => exact ⟨error, by simp only [upper]⟩
    | ok _ => exact ⟨.notFound, by simp only [upper, fails, missing, Bool.false_eq_true, if_false]⟩
  · refine ⟨error, ?_⟩
    simp only [missing, Bool.false_eq_true, if_false]

theorem makeChain_error_cases {above : List Path} {error : FileError}
    (failed : tree.makeChain (path :: above) = (left, .error error)) :
    path.text ≠ "" ∧
      (left.isDirectory path = false ∧
          (∃ error, left.makeChain (path :: above) = (left, .error error)) ∨
        ∃ error, tree.makeChain above = (left, .error error)) := by
  have again := failed
  unfold makeChain at failed
  split at failed
  · cases failed
  next written =>
  refine ⟨written, ?_⟩
  split at failed
  · cases failed
  · split at failed
    · next chain =>
      cases failed
      exact .inr ⟨_, chain⟩
    · next middle chain =>
      split at failed
      · cases failed
      · next fails =>
        split at failed
        · cases failed
        · next missing =>
          cases failed
          have absent := Bool.eq_false_iff.mpr missing
          exact .inl ⟨absent, makeChain_of_error written absent fails (makeChain_again chain)⟩
  · split at failed
    · cases failed
    · next missing =>
      cases failed
      exact .inl ⟨Bool.eq_false_iff.mpr missing, _, again⟩

/-- Directories that could not be made cannot be made the next time, and nothing changes then. -/
theorem Proper.makeChain_fails_again (proper : tree.Proper) {steps : Nat} {error : FileError}
    (failed : tree.makeChain (path.ancestorsWithin steps) = (left, .error error)) :
    path.text ≠ "" ∧ left.isDirectory path = false ∧
      ∃ error, left.makeChain (path.ancestorsWithin steps) = (left, .error error) := by
  have later : left.Proper := by
    have steps := makeChain_makes tree (path.ancestorsWithin steps)
    rw [failed] at steps
    obtain ⟨_, grown, _⟩ := steps.grown
    exact grown.proper proper
  induction steps generalizing path error with
  | zero =>
    obtain ⟨written, immediate | ⟨_, nothing⟩⟩ := makeChain_error_cases failed
    · exact ⟨written, immediate⟩
    · cases nothing
  | succ steps ih =>
    unfold Path.ancestorsWithin at failed ⊢
    cases above : path.parent? with
    | none =>
      simp only [above] at failed ⊢
      obtain ⟨written, immediate | ⟨_, nothing⟩⟩ := makeChain_error_cases failed
      · exact ⟨written, immediate⟩
      · cases nothing
    | some parent =>
      simp only [above] at failed ⊢
      obtain ⟨written, immediate | ⟨_, upper⟩⟩ := makeChain_error_cases failed
      · exact ⟨written, immediate⟩
      · obtain ⟨spelled, missing, _, again⟩ := ih upper
        obtain ⟨absent, _, fails⟩ := later.makeDirectory_fails above spelled missing
        exact ⟨written, absent, makeChain_of_error written absent fails again⟩

theorem Proper.makeParent_fails_again (proper : tree.Proper) {failure : Failure}
    (failed : tree.makeParent path = (left, .error failure)) :
    ¬ left.HasParent path ∧ ∃ failure, left.makeParent path = (left, .error failure) := by
  unfold makeParent at failed ⊢
  cases above : path.parent? with
  | none => simp [above] at failed
  | some parent =>
    simp only [above] at failed ⊢
    split at failed
    · cases failed
    · next chain =>
      cases failed
      obtain ⟨written, missing, error, again⟩ := proper.makeChain_fails_again chain
      refine ⟨?_, .io parent error, ?_⟩
      · intro present
        rcases present parent above with blank | directory
        · exact written blank
        · rw [missing] at directory
          cases directory
      · simp only [makeDirectories, Path.ancestors, again]

end Again

end FileTree

end ApiMigration
