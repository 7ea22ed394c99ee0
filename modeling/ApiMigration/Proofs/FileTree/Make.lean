import ApiMigration.Proofs.FileTree.LinkFree

namespace ApiMigration.FileTree

theorem walkWith_ne_alreadyExists {tree : FileTree} {approach : Approach}
    {jump : Location → List String → Except FileError Location}
    (jumped : ∀ here parts, jump here parts ≠ .error .alreadyExists) (here : Location)
    (parts : List String) : tree.walkWith approach jump here parts ≠ .error .alreadyExists := by
  fun_induction walkWith tree approach jump here parts <;> simp_all

theorem walk_ne_alreadyExists (tree : FileTree) (approach : Approach) (links : Nat)
    (here : Location) (parts : List String) :
    tree.walk approach links here parts ≠ .error .alreadyExists := by
  induction links generalizing here parts with
  | zero => exact walkWith_ne_alreadyExists (by simp) here parts
  | succ links ih => exact walkWith_ne_alreadyExists ih here parts

theorem locate_ne_alreadyExists (tree : FileTree) (path : Path) (approach : Approach) :
    tree.locate path approach ≠ .error .alreadyExists := by
  unfold locate
  split
  · simp
  split
  · simp
  split
  · simp
  · exact walk_ne_alreadyExists _ _ _ _ _

section

variable {tree made : FileTree} {path : Path}

theorem put_eq_ok_iff {α : Type} {approach : Approach} {put : Location → α} {result : α} :
    ((tree.locate path approach).bind fun place =>
        if (tree.get? place).isSome then .error .alreadyExists else .ok (put place)) =
        .ok result ↔
      ∃ place, tree.locate path approach = .ok place ∧ tree.get? place = none ∧
        result = put place := by
  cases tree.locate path approach with
  | error failure => simp [Except.bind]
  | ok place =>
    cases held : tree.get? place with
    | none => simp [Except.bind, held, eq_comm]
    | some entry => simp [Except.bind, held]

theorem put_alreadyExists_iff {α : Type} {approach : Approach} {put : Location → α} :
    ((tree.locate path approach).bind fun place =>
        if (tree.get? place).isSome then .error .alreadyExists else .ok (put place)) =
        .error .alreadyExists ↔
      ∃ place, tree.locate path approach = .ok place ∧ (tree.get? place).isSome := by
  cases located : tree.locate path approach with
  | error failure =>
    have other := locate_ne_alreadyExists tree path approach
    rw [located] at other
    simpa [Except.bind] using other
  | ok place =>
    cases held : tree.get? place with
    | none => simp [Except.bind, held]
    | some entry => simp [Except.bind, held]

theorem createNew_eq_ok_iff {place : Location} :
    tree.createNew path = .ok (made, place) ↔
      tree.locate path { followLast := false, wantsFile := true } = .ok place ∧
        tree.get? place = none ∧ made = tree.set place (.file []) := by
  have put : tree.createNew path = .ok (made, place) ↔ _ := put_eq_ok_iff
  rw [put]
  constructor
  · rintro ⟨other, located, absent, same⟩
    cases same
    exact ⟨located, absent, rfl⟩
  · rintro ⟨located, absent, rfl⟩
    exact ⟨place, located, absent, rfl⟩

theorem createNew_alreadyExists_iff :
    tree.createNew path = .error .alreadyExists ↔
      ∃ place, tree.locate path { followLast := false, wantsFile := true } = .ok place ∧
        (tree.get? place).isSome :=
  put_alreadyExists_iff

theorem makeDirectory_eq_ok_iff :
    tree.makeDirectory path = .ok made ↔
      ∃ place, tree.locate path { followLast := false } = .ok place ∧
        tree.get? place = none ∧ made = tree.set place .directory :=
  put_eq_ok_iff

theorem makeDirectory_alreadyExists_iff :
    tree.makeDirectory path = .error .alreadyExists ↔
      ∃ place, tree.locate path { followLast := false } = .ok place ∧ (tree.get? place).isSome :=
  put_alreadyExists_iff

end

inductive MakesDirectories (old : FileTree) : FileTree → Prop
  | refl : MakesDirectories old old
  | next {middle : FileTree} {path : Path} {approach : Approach} {place : Location}
      (before : MakesDirectories old middle) (located : middle.locate path approach = .ok place)
      (absent : middle.get? place = none) : MakesDirectories old (middle.set place .directory)

namespace MakesDirectories

variable {old new : FileTree}

theorem extend (made : MakesDirectories old new) : Extends old new := by
  induction made with
  | refl => exact .refl old
  | next _ _ absent ih => exact ih.trans (.set .directory absent)

theorem linkFree (made : MakesDirectories old new) (free : old.LinkFree) : new.LinkFree := by
  induction made with
  | refl => exact free
  | next _ _ absent ih => exact ih.set absent (by simp)

theorem file (made : MakesDirectories old new) {place : Location} {bytes : List UInt8}
    (held : new.get? place = some (.file bytes)) : old.get? place = some (.file bytes) := by
  induction made with
  | refl => exact held
  | next _ _ absent ih =>
    rw [get?_set_of_absent .directory absent] at held
    split at held
    · cases held
    · exact ih held

end MakesDirectories

theorem makeChain_makes (tree : FileTree) (paths : List Path) :
    MakesDirectories tree (tree.makeChain paths).1 := by
  induction paths with
  | nil => exact .refl
  | cons path above ih =>
    unfold makeChain
    split
    · exact .refl
    split
    · next first =>
      obtain ⟨place, located, absent, rfl⟩ := makeDirectory_eq_ok_iff.mp first
      exact .next .refl located absent
    · split
      · next chain =>
        rw [chain] at ih
        exact ih
      · next chain =>
        rw [chain] at ih
        split
        · next second =>
          obtain ⟨place, located, absent, rfl⟩ := makeDirectory_eq_ok_iff.mp second
          exact .next ih located absent
        · exact ih
    · exact .refl

theorem Trail.exists_unfollowed {tree : FileTree} {links : Nat} {here place : Location}
    {parts : List String} (trail : Trail tree {} links here parts place)
    (directory : tree.get? place = some .directory) :
    ∃ other, tree.walk { followLast := false } links here parts = .ok other ∧
      (tree.get? other).isSome := by
  induction trail with
  | @stop links here => exact ⟨here, walk_nil, by rw [directory]; rfl⟩
  | stay void _ ih =>
    rw [walk_stay void]
    exact ih directory
  | up _ ih =>
    rw [walk_up]
    exact ih directory
  | enter named inside _ ih =>
    rw [walk_name (named.relax _)]
    simp only [inside]
    exact ih directory
  | reach _ free _ => exact absurd directory free
  | @follow links here place part rest target named link _ _ ih =>
    rw [walk_name (named.relax _)]
    simp only [link]
    by_cases last : rest = []
    · exact ⟨here ++ [part], by simp [last], by rw [link]; rfl⟩
    · rw [if_neg (fun both => last both.1)]
      exact ih directory

theorem Trail.followed {tree : FileTree} {approach : Approach} {links : Nat}
    {here place : Location} {parts : List String}
    (trail : Trail tree approach links here parts place)
    (directory : tree.get? place = some .directory) : Trail tree {} links here parts place := by
  induction trail with
  | stop => exact .stop
  | stay void _ ih => exact .stay void (ih directory)
  | up _ ih => exact .up (ih directory)
  | enter named inside _ ih => exact .enter (named.relax _) inside (ih directory)
  | reach _ free _ => exact absurd directory free
  | follow named link _ _ ih => exact .follow (named.relax _) link (by simp) (ih directory)

theorem isDirectory_of_locate {tree : FileTree} {path : Path} {approach : Approach}
    {place : Location} (located : tree.locate path approach = .ok place)
    (directory : tree.get? place = some .directory) : tree.isDirectory path = true := by
  have admissible := admissible_of_locate located
  rw [locate_eq_walk admissible, walk_eq_ok_iff_trail] at located
  refine isDirectory_iff.mpr ⟨place, ?_, directory⟩
  rw [locate_eq_walk admissible, walk_eq_ok_iff_trail]
  exact located.followed directory

theorem linksWithin_set {tree : FileTree} {place : Location} {entry : Entry}
    (absent : tree.get? place = none) (solid : ∀ target, entry ≠ .link target) :
    LinksWithin (tree.set place entry) tree := by
  intro other target held
  rw [get?_set_of_absent entry absent] at held
  split at held
  · exact absurd (Option.some.inj held) (solid target)
  · exact held

theorem isDirectory_of_makeDirectory {tree made : FileTree} {path : Path}
    (success : tree.makeDirectory path = .ok made) : made.isDirectory path = true := by
  obtain ⟨place, located, absent, rfl⟩ := makeDirectory_eq_ok_iff.mp success
  apply isDirectory_of_locate
    (locate_extend (.set .directory absent) (linksWithin_set absent (by simp)) located)
  rw [get?_set_of_absent .directory absent, if_pos rfl]

theorem isDirectory_of_makeChain {tree made : FileTree} {path : Path} {above : List Path}
    (success : tree.makeChain (path :: above) = (made, .ok ())) :
    path.text = "" ∨ made.isDirectory path = true := by
  unfold makeChain at success
  split at success
  · next blank => exact .inl blank
  right
  split at success
  · next first =>
    cases success
    exact isDirectory_of_makeDirectory first
  · split at success
    · cases success
    · split at success
      · next second =>
        cases success
        exact isDirectory_of_makeDirectory second
      · split at success
        · next present =>
          cases success
          exact present
        · cases success
  · split at success
    · next present =>
      cases success
      exact present
    · cases success

theorem makeChain_of_isDirectory {tree : FileTree} {path : Path} {above : List Path}
    (present : path.text = "" ∨ tree.isDirectory path = true) :
    tree.makeChain (path :: above) = (tree, .ok ()) := by
  unfold makeChain
  split
  · rfl
  · next written =>
    have directory := present.resolve_left written
    obtain ⟨place, located, held⟩ := isDirectory_iff.mp directory
    have known : tree.makeDirectory path = .error .alreadyExists := by
      have admissible := admissible_of_locate located
      rw [locate_eq_walk admissible, walk_eq_ok_iff_trail] at located
      rw [makeDirectory_alreadyExists_iff, locate_eq_walk admissible]
      exact located.exists_unfollowed held
    simp [known, directory]

theorem exists_ancestorsWithin_eq_cons (steps : Nat) (path : Path) :
    ∃ above, path.ancestorsWithin steps = path :: above := by
  cases steps with
  | zero => exact ⟨[], rfl⟩
  | succ steps =>
    unfold Path.ancestorsWithin
    split
    · exact ⟨[], rfl⟩
    · exact ⟨_, rfl⟩

theorem makeParent_makes (tree : FileTree) (path : Path) :
    MakesDirectories tree (tree.makeParent path).1 := by
  unfold makeParent
  split
  · exact .refl
  · next parent _ =>
    have steps : MakesDirectories tree (tree.makeDirectories parent).1 := makeChain_makes tree _
    split
    · next made =>
      rw [made] at steps
      exact steps
    · next made =>
      rw [made] at steps
      exact steps

def HasParent (tree : FileTree) (path : Path) : Prop :=
  ∀ parent, path.parent? = some parent → parent.text = "" ∨ tree.isDirectory parent = true

theorem hasParent_of_makeParent {tree made : FileTree} {path : Path}
    (success : tree.makeParent path = (made, .ok ())) : made.HasParent path := by
  intro parent above
  obtain ⟨further, chain⟩ := exists_ancestorsWithin_eq_cons parent.text.length parent
  simp only [makeParent, above, makeDirectories, Path.ancestors, chain] at success
  split at success
  · next result =>
    cases success
    exact isDirectory_of_makeChain result
  · cases success

theorem makeParent_of_hasParent {tree : FileTree} {path : Path}
    (present : tree.HasParent path) : tree.makeParent path = (tree, .ok ()) := by
  unfold makeParent
  split
  · rfl
  · next parent above =>
    obtain ⟨further, chain⟩ := exists_ancestorsWithin_eq_cons parent.text.length parent
    rw [makeDirectories, Path.ancestors, chain, makeChain_of_isDirectory (present parent above)]

theorem Extends.hasParent {old new : FileTree} (extended : Extends old new)
    (linkFree : new.LinkFree) {path : Path} (present : old.HasParent path) : new.HasParent path := by
  intro parent above
  exact (present parent above).imp_right (extended.isDirectory linkFree)

end ApiMigration.FileTree
