import ApiMigration.Proofs.FileTree.Locate

namespace ApiMigration.FileTree

section

variable {tree : FileTree} {path : Path} {approach : Approach} {place : Location}

theorem Extends.locate {old new : FileTree} (extended : Extends old new)
    (linkFree : new.LinkFree) (located : old.locate path approach = .ok place) :
    new.locate path approach = .ok place :=
  locate_extend extended (fun place target held => absurd held (linkFree place target)) located

theorem Trail.relax {links : Nat} {here : Location} {parts : List String}
    (trail : Trail tree approach links here parts place) (linkFree : tree.LinkFree)
    {other : Approach} (relaxed : other.wantsFile = false) :
    Trail tree other links here parts place := by
  have unwanted : ∀ {part : String} {rest : List String}, IsName approach.wantsFile part rest →
      IsName other.wantsFile part rest := by
    intro part rest named
    rw [relaxed]
    exact named.relax rest
  induction trail with
  | stop => exact .stop
  | stay void _ ih => exact .stay void ih
  | up _ ih => exact .up ih
  | enter named directory _ ih => exact .enter (unwanted named) directory ih
  | reach named free _ =>
    exact .reach (unwanted named) free fun target held => absurd held (linkFree _ target)
  | follow _ link _ _ _ => exact absurd link (linkFree _ _)

/-- Without links, a path leads to the same place however it is approached, if no file is wanted
there. -/
theorem locate_of_locate (linkFree : tree.LinkFree) {other : Approach}
    (relaxed : other.wantsFile = false) (located : tree.locate path approach = .ok place) :
    tree.locate path other = .ok place := by
  have admissible := admissible_of_locate located
  rw [locate_eq_walk admissible, walk_eq_ok_iff_trail] at located ⊢
  exact located.relax linkFree relaxed

theorem Extends.isDirectory {old new : FileTree} (extended : Extends old new)
    (linkFree : new.LinkFree) (directory : old.isDirectory path = true) :
    new.isDirectory path = true := by
  obtain ⟨place, located, held⟩ := isDirectory_iff.mp directory
  exact isDirectory_iff.mpr ⟨place, extended.locate linkFree located, extended.get? held⟩

/-- The place that the names of a path spell. -/
def placeOf (tree : FileTree) (path : Path) : Location :=
  tree.start path ++ Target.directoryNames path

theorem Extends.placeOf_eq {old new : FileTree} (extended : Extends old new) (path : Path) :
    new.placeOf path = old.placeOf path := by
  rw [placeOf, placeOf, extended.start_eq]

theorem eq_placeOf_of_locate (linkFree : tree.LinkFree) (downward : .up ∉ path.components)
    (located : tree.locate path approach = .ok place) : place = tree.placeOf path := by
  have named := Path.dots_not_mem_of_downward downward
  rw [locate_eq_walk (admissible_of_locate located), walk_eq_ok_iff_trail] at located
  rw [located.place_eq named fun _ _ _ _ target => linkFree _ target, placeOf,
    Path.directoryNames_eq downward, filter_map_ofList]

end

end ApiMigration.FileTree
