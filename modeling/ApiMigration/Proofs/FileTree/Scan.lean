import ApiMigration.FileTree.Scan
import ApiMigration.Proofs.FileTree.LinkFree

namespace ApiMigration.FileTree

theorem read_eq_ok_iff {tree : FileTree} {path : Path} {bytes : List UInt8} :
    tree.read path = .ok bytes ↔
      ∃ place, tree.locate path = .ok place ∧ tree.get? place = some (.file bytes) := by
  unfold read
  cases tree.locate path with
  | error failure => simp [bind, Except.bind]
  | ok place =>
    cases held : tree.get? place with
    | none => simp [bind, Except.bind, held]
    | some entry => cases entry <;> simp [bind, Except.bind, held]

theorem readLossy?_eq_some_iff {tree : FileTree} {path : Path} {text : String} :
    tree.readLossy? path = some text ↔
      ∃ bytes, tree.read path = .ok bytes ∧ text = String.ofList (Text.decodeLossy bytes) := by
  unfold readLossy?
  cases tree.read path with
  | error failure => simp
  | ok bytes => simp [eq_comm]

theorem scan_eq_ok_iff {tree : FileTree} {root : Path} {selection : Selection}
    {found : List Path} :
    tree.scan root selection = .ok found ↔
      ∃ place, tree.locate root = .ok place ∧ tree.get? place = some .directory ∧
        found = (tree.foundBelow selection place).map root.joinAll := by
  unfold scan
  cases tree.locate root with
  | error failure => simp
  | ok place =>
    by_cases directory : tree.get? place = some .directory
    · simp [directory, eq_comm]
    · simp [directory]

namespace Extends

variable {old new : FileTree} {path : Path}

theorem readLossy? (extended : Extends old new) (linkFree : new.LinkFree) {text : String}
    (told : old.readLossy? path = some text) : new.readLossy? path = some text := by
  obtain ⟨bytes, read, same⟩ := readLossy?_eq_some_iff.mp told
  obtain ⟨place, located, held⟩ := read_eq_ok_iff.mp read
  refine readLossy?_eq_some_iff.mpr ⟨bytes, ?_, same⟩
  exact read_eq_ok_iff.mpr ⟨place, extended.locate linkFree located, extended.get? held⟩

theorem filesBelow_subset (extended : Extends old new) (location : Location) :
    old.filesBelow location ⊆ new.filesBelow location := by
  obtain ⟨added, whole⟩ := extended.entries_prefix
  unfold filesBelow
  rw [← whole, List.filterMap_append]
  exact List.subset_append_left _ _

theorem foundBelow_subset (extended : Extends old new) (selection : Selection)
    (location : Location) :
    old.foundBelow selection location ⊆ new.foundBelow selection location := by
  intro names member
  rw [foundBelow, List.mem_mergeSort, List.mem_filter] at member ⊢
  exact ⟨extended.filesBelow_subset location member.1, member.2⟩

end Extends

end ApiMigration.FileTree
