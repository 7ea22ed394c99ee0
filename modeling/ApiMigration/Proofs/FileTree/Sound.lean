import ApiMigration.Proofs.FileTree.Make

namespace ApiMigration.FileTree

/-- No links, every entry in a directory, and a working directory that is there. -/
structure Sound (tree : FileTree) : Prop where
  linkFree : tree.LinkFree
  inDirectory : ∀ place name, (tree.get? (place ++ [name])).isSome →
    tree.get? place = some .directory
  working : tree.get? tree.workingDirectory = some .directory

theorem inDirectory_of_entries {tree : FileTree}
    (nested : ∀ entry ∈ tree.entries, tree.get? entry.1.dropLast = some .directory)
    (place : Location) (name : String) (held : (tree.get? (place ++ [name])).isSome) :
    tree.get? place = some .directory := by
  obtain ⟨entry, found⟩ := Option.isSome_iff_exists.mp held
  have member := mem_entries_of_get? (by simp) found
  have directory := nested (place ++ [name], entry) member
  rwa [List.dropLast_concat] at directory

theorem sound_of_entries {tree : FileTree}
    (clear : ∀ entry ∈ tree.entries, ∀ target, entry.2 ≠ .link target)
    (nested : ∀ entry ∈ tree.entries, tree.get? entry.1.dropLast = some .directory)
    (working : tree.get? tree.workingDirectory = some .directory) : tree.Sound where
  linkFree := linkFree_of_entries clear
  inDirectory := inDirectory_of_entries nested
  working := working

theorem Sound.start {tree : FileTree} (sound : tree.Sound) (path : Path) :
    tree.get? (tree.start path) = some .directory :=
  get?_start sound.working path

theorem Sound.set {tree : FileTree} (sound : tree.Sound) {path : Path} {approach : Approach}
    {place : Location} {entry : Entry} (located : tree.locate path approach = .ok place)
    (absent : tree.get? place = none) (solid : ∀ target, entry ≠ .link target) :
    (tree.set place entry).Sound := by
  obtain ⟨upper, last, rfl, directory, _⟩ :=
    locate_free sound.inDirectory (sound.start path) located absent
  have extended := Extends.set entry absent
  refine ⟨sound.linkFree.set absent solid, ?_, extended.get? sound.working⟩
  intro place name held
  apply extended.get?
  rw [get?_set_of_absent entry absent] at held
  split at held
  · next same =>
    rw [(List.append_inj_left' same rfl)]
    exact directory
  · exact sound.inDirectory place name held

theorem MakesDirectories.sound {old new : FileTree} (made : MakesDirectories old new)
    (sound : old.Sound) : new.Sound := by
  induction made with
  | refl => exact sound
  | next _ located absent ih => exact ih.set located absent (by simp)

end ApiMigration.FileTree
