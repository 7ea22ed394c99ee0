import ApiMigration.Proofs.FileTree.Scan
import ApiMigration.Proofs.Target.Inventory
import ApiMigration.Target.Corpus

namespace ApiMigration.Target

open FileTree

theorem origin_of_mem_declarations {origin : Path} {text : String}
    {declaration : TargetDeclaration} (member : declaration ∈ declarations origin text) :
    declaration.origin = origin := by
  unfold declarations at member
  split at member
  · cases member
  · obtain ⟨_, _, rfl⟩ := List.mem_map.mp member
    rfl

theorem collect_eq_ok_iff {α : Type} {tree : FileTree} {settings : TargetSettings} {root : Path}
    {find : Path → String → List α} {found : List α} :
    collect tree settings root find = .ok found ↔
      ∃ paths, tree.scan root (selection settings) = .ok paths ∧
        found = paths.flatMap fun path => (tree.readLossy? path).elim [] (find path) := by
  unfold collect
  cases tree.scan root (selection settings) with
  | error failure => simp [Except.map]
  | ok paths => simp [Except.map, eq_comm]

theorem mem_flatMap_readLossy? {α : Type} {tree : FileTree} {paths : List Path}
    {find : Path → String → List α} {item : α} :
    (item ∈ paths.flatMap fun path => (tree.readLossy? path).elim [] (find path)) ↔
      ∃ path ∈ paths, ∃ text, tree.readLossy? path = some text ∧ item ∈ find path text := by
  rw [List.mem_flatMap]
  refine exists_congr fun path => and_congr_right fun _ => ?_
  cases tree.readLossy? path <;> simp

def declared (tree : FileTree) (settings : TargetSettings) (root : Path) (base : Location) :
    List TargetDeclaration :=
  (tree.foundBelow (selection settings) base).flatMap fun names =>
    (tree.readLossy? (root.joinAll names)).elim [] (declarations (root.joinAll names))

theorem scanInventory_eq_ok_iff_collect {tree : FileTree} {settings : TargetSettings} {root : Path}
    {inventory : Inventory} :
    scanInventory tree settings root = .ok inventory ↔
      ∃ found, collect tree settings root declarations = .ok found ∧
        inventory = Inventory.ofList found := by
  unfold scanInventory
  cases collect tree settings root declarations with
  | error failure => simp [Except.map]
  | ok found => simp [Except.map, eq_comm]

theorem scanInventory_eq_ok_iff {tree : FileTree} {settings : TargetSettings} {root : Path}
    {inventory : Inventory} :
    scanInventory tree settings root = .ok inventory ↔
      ∃ base, tree.locate root = .ok base ∧ tree.get? base = some .directory ∧
        inventory = Inventory.ofList (declared tree settings root base) := by
  rw [scanInventory_eq_ok_iff_collect]
  constructor
  · rintro ⟨found, collected, rfl⟩
    obtain ⟨paths, scanned, rfl⟩ := collect_eq_ok_iff.mp collected
    obtain ⟨base, located, directory, rfl⟩ := scan_eq_ok_iff.mp scanned
    exact ⟨base, located, directory, by rw [declared, List.flatMap_map]⟩
  · rintro ⟨base, located, directory, rfl⟩
    refine ⟨_, collect_eq_ok_iff.mpr ⟨_, scan_eq_ok_iff.mpr ⟨base, located, directory, rfl⟩, rfl⟩, ?_⟩
    rw [declared, List.flatMap_map]

theorem exists_scanInventory {tree : FileTree} {root : Path} (settings : TargetSettings)
    (directory : tree.isDirectory root = true) :
    ∃ inventory, scanInventory tree settings root = .ok inventory := by
  obtain ⟨base, located, held⟩ := isDirectory_iff.mp directory
  exact ⟨_, scanInventory_eq_ok_iff.mpr ⟨base, located, held, rfl⟩⟩

theorem declared_subset {old new : FileTree} (extended : Extends old new) (linkFree : new.LinkFree)
    (settings : TargetSettings) (root : Path) (base : Location) :
    declared old settings root base ⊆ declared new settings root base := by
  intro declaration member
  obtain ⟨names, listed, inside⟩ := List.mem_flatMap.mp member
  refine List.mem_flatMap.mpr ⟨names, extended.foundBelow_subset _ base listed, ?_⟩
  cases told : old.readLossy? (root.joinAll names) with
  | none => simp [told] at inside
  | some text =>
    rw [told] at inside
    rw [extended.readLossy? linkFree told]
    exact inside

end ApiMigration.Target
