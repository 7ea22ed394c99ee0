import ApiMigration.Proofs.FileTree.Trail

namespace ApiMigration.FileTree

structure Admissible (path : Path) : Prop where
  withoutNul : ¬ path.text.toList.contains '\x00' = true
  written : path.text ≠ ""
  short : ¬ pathLimit < path.text.utf8ByteSize

def start (tree : FileTree) (path : Path) : Location :=
  if path.isAbsolute then [] else tree.workingDirectory

instance (path : Path) : Decidable (Admissible path) :=
  decidable_of_iff
    (¬ path.text.toList.contains '\x00' = true ∧ path.text ≠ "" ∧
      ¬ pathLimit < path.text.utf8ByteSize)
    ⟨fun parts => ⟨parts.1, parts.2.1, parts.2.2⟩,
      fun admissible => ⟨admissible.withoutNul, admissible.written, admissible.short⟩⟩

section Locate

variable {tree : FileTree} {path : Path} {approach : Approach} {place : Location}

theorem locate_eq_walk (admissible : Admissible path) :
    tree.locate path approach =
      tree.walk approach linkLimit (tree.start path) (path.parts.map String.ofList) := by
  rw [locate, if_neg admissible.withoutNul, if_neg admissible.written, if_neg admissible.short]
  rfl

theorem admissible_of_locate (located : tree.locate path approach = .ok place) :
    Admissible path := by
  unfold locate at located
  split at located
  · cases located
  split at located
  · cases located
  split at located
  · cases located
  · next withoutNul written short => exact ⟨withoutNul, written, short⟩

theorem Extends.start_eq {old new : FileTree} (extended : Extends old new) (path : Path) :
    new.start path = old.start path := by
  rw [start, start, extended.workingDirectory_eq]

theorem locate_extend {old new : FileTree} (extended : Extends old new)
    (within : LinksWithin new old) {path : Path} {approach : Approach} {place : Location}
    (located : old.locate path approach = .ok place) :
    new.locate path approach = .ok place := by
  have admissible := admissible_of_locate located
  rw [locate_eq_walk admissible, walk_eq_ok_iff_trail] at located ⊢
  rw [extended.start_eq]
  exact located.extend extended within

theorem isDirectory_iff :
    tree.isDirectory path = true ↔
      ∃ place, tree.locate path = .ok place ∧ tree.get? place = some .directory := by
  unfold isDirectory find?
  cases tree.locate path with
  | error failure => simp
  | ok place => simp

theorem isPresent_iff :
    tree.isPresent path = true ↔
      ∃ place, tree.locate path = .ok place ∧ (tree.get? place).isSome := by
  unfold isPresent find?
  cases tree.locate path with
  | error failure => simp
  | ok place => simp

theorem isPresent_of_isDirectory (directory : tree.isDirectory path = true) :
    tree.isPresent path = true := by
  obtain ⟨place, located, held⟩ := isDirectory_iff.mp directory
  exact isPresent_iff.mpr ⟨place, located, by simp [held]⟩

end Locate

theorem get?_start {tree : FileTree}
    (working : tree.get? tree.workingDirectory = some .directory) (path : Path) :
    tree.get? (tree.start path) = some .directory := by
  unfold start
  split
  · exact tree.get?_root
  · exact working

theorem Admissible.of_text {path longer : Path} {more : String} (admissible : Admissible longer)
    (whole : longer.text = path.text ++ more) (written : path.text ≠ "") : Admissible path := by
  refine ⟨?_, written, ?_⟩
  · intro nul
    apply admissible.withoutNul
    rw [whole, String.toList_append]
    simp only [List.contains_eq_mem, List.mem_append, decide_eq_true_eq] at nul ⊢
    exact .inl nul
  · intro long
    apply admissible.short
    rw [whole, String.utf8ByteSize_append]
    omega

theorem Admissible.of_join {base sub : Path} (admissible : Admissible (base.join sub))
    (relative : sub.isAbsolute = false) (written : base.text ≠ "") : Admissible base := by
  obtain ⟨more, longer⟩ := Path.exists_text_join base relative
  exact admissible.of_text longer written

theorem isDirectory_of_locate_join {tree : FileTree} {base sub : Path} {approach : Approach}
    {place : Location}
    (nested : tree.Nested) (entered : tree.get? (tree.start base) = some .directory)
    (relative : sub.isAbsolute = false)
    (written : base.text ≠ "") (located : tree.locate (base.join sub) approach = .ok place) :
    tree.isDirectory base = true := by
  have admissible := admissible_of_locate located
  obtain ⟨same, front, spelled, whole⟩ := Path.parts_join relative written
  have started : tree.start (base.join sub) = tree.start base := by
    rw [start, start, same]
  rw [locate_eq_walk admissible, started, whole, List.map_append, walk_eq_ok_iff_trail] at located
  obtain ⟨_, middle, first, directory, _⟩ :=
    located.cut nested entered (by simpa using Path.parts_ne_nil sub)
  refine isDirectory_iff.mpr ⟨middle, ?_, directory⟩
  rw [locate_eq_walk (admissible.of_join relative written), walk_eq_ok_iff_trail]
  apply first.of_filter directory
  rcases spelled with spelled | spelled
  · rw [spelled]
  · simp [spelled, isSolid]

structure IsFileName (name : String) : Prop where
  solid : name ≠ ""
  elsewhere : name ≠ "."
  downward : name ≠ ".."
  slashFree : '/' ∉ name.toList
  short : ¬ nameLimit < name.utf8ByteSize

theorem IsFileName.plain {name : String} (named : IsFileName name) : Path.IsPlain name :=
  ⟨named.solid, named.elsewhere, named.downward, named.slashFree⟩

instance (name : String) : Decidable (IsFileName name) :=
  decidable_of_iff
    (name ≠ "" ∧ name ≠ "." ∧ name ≠ ".." ∧ '/' ∉ name.toList ∧ ¬ nameLimit < name.utf8ByteSize)
    ⟨fun ⟨solid, elsewhere, downward, slashFree, short⟩ =>
        ⟨solid, elsewhere, downward, slashFree, short⟩,
      fun named => ⟨named.solid, named.elsewhere, named.downward, named.slashFree, named.short⟩⟩

section Free

variable {tree : FileTree} {approach : Approach} {place : Location}

theorem Trail.free (nested : tree.Nested) {links : Nat} {here : Location} {parts : List String}
    (trail : Trail tree approach links here parts place)
    (entered : tree.get? here = some .directory) (clean : ∀ part ∈ parts, '/' ∉ part.toList)
    (absent : tree.get? place = none) :
    ∃ upper name, place = upper ++ [name] ∧ tree.get? upper = some .directory ∧
      IsFileName name := by
  induction trail with
  | stop =>
    rw [entered] at absent
    cases absent
  | stay _ _ ih => exact ih entered (List.forall_mem_cons.mp clean).2 absent
  | up _ ih => exact ih (nested.above entered) (List.forall_mem_cons.mp clean).2 absent
  | enter _ directory _ ih => exact ih directory (List.forall_mem_cons.mp clean).2 absent
  | @reach links here part named _ _ =>
    refine ⟨here, part, rfl, entered, ?_⟩
    exact ⟨fun empty => named.solid (.inl empty), fun dot => named.solid (.inr dot),
      named.downward, clean part List.mem_cons_self, named.short⟩
  | follow _ _ _ _ ih =>
    refine ih ?_ ?_ absent
    · split
      · exact tree.get?_root
      · exact entered
    · intro part member
      rcases List.mem_append.mp member with member | member
      · obtain ⟨inner, listed, rfl⟩ := List.mem_map.mp member
        rw [String.toList_ofList]
        exact Path.slash_not_mem_of_mem_parts listed
      · exact (List.forall_mem_cons.mp clean).2 part member

theorem locate_free (nested : tree.Nested) {path : Path}
    (entered : tree.get? (tree.start path) = some .directory)
    (located : tree.locate path approach = .ok place) (absent : tree.get? place = none) :
    ∃ upper name, place = upper ++ [name] ∧ tree.get? upper = some .directory ∧
      IsFileName name := by
  rw [locate_eq_walk (admissible_of_locate located), walk_eq_ok_iff_trail] at located
  refine located.free nested entered ?_ absent
  intro part member
  obtain ⟨inner, listed, rfl⟩ := List.mem_map.mp member
  rw [String.toList_ofList]
  exact Path.slash_not_mem_of_mem_parts listed

end Free

end ApiMigration.FileTree
