import ApiMigration.Proofs.FileTree.Found

namespace ApiMigration

def Entry.emptied : Entry → Entry
  | .file _ => .file []
  | entry => entry

namespace FileTree

def emptied (tree : FileTree) : FileTree :=
  { tree with entries := tree.entries.map fun entry => (entry.1, entry.2.emptied) }

theorem get?_emptied (tree : FileTree) (place : Location) :
    tree.emptied.get? place = (tree.get? place).map Entry.emptied := by
  have looked : ∀ entries : List (Location × Entry),
      (entries.map fun entry => (entry.1, entry.2.emptied)).lookup place =
        (entries.lookup place).map Entry.emptied := by
    intro entries
    induction entries with
    | nil => rfl
    | cons entry more ih =>
      obtain ⟨other, held⟩ := entry
      rw [List.map_cons, List.lookup_cons, List.lookup_cons]
      cases place == other with
      | true => rfl
      | false => exact ih
  unfold get?
  split
  · rfl
  · exact looked tree.entries

theorem walkWith_emptied (tree : FileTree) (approach : Approach)
    (jump : Location → List String → Except FileError Location) (here : Location)
    (parts : List String) :
    tree.emptied.walkWith approach jump here parts = tree.walkWith approach jump here parts := by
  induction parts generalizing here with
  | nil => rw [walkWith, walkWith]
  | cons part rest ih =>
    rw [walkWith, walkWith, get?_emptied]
    simp only [ih]
    cases tree.get? (here ++ [part]) with
    | none => rfl
    | some entry => cases entry <;> rfl

theorem walk_emptied (tree : FileTree) (approach : Approach) (links : Nat) :
    tree.emptied.walk approach links = tree.walk approach links := by
  induction links with
  | zero =>
    funext here parts
    exact walkWith_emptied tree approach _ here parts
  | succ links ih =>
    funext here parts
    rw [walk, walk, ih]
    exact walkWith_emptied tree approach _ here parts

theorem locate_emptied (tree : FileTree) (path : Path) (approach : Approach) :
    tree.emptied.locate path approach = tree.locate path approach := by
  rw [locate, locate, walk_emptied]
  rfl

theorem filesBelow_emptied (tree : FileTree) (base : Location) :
    tree.emptied.filesBelow base = tree.filesBelow base := by
  unfold filesBelow emptied
  rw [List.filterMap_map]
  apply List.filterMap_congr
  rintro ⟨place, entry⟩ _
  cases entry <;> rfl

theorem setEntry_emptied {place : Location} {old new : Entry} {entries : List (Location × Entry)}
    (held : entries.lookup place = some old) (same : new.emptied = old.emptied) :
    (setEntry place new entries).map (fun entry => (entry.1, entry.2.emptied)) =
      entries.map fun entry => (entry.1, entry.2.emptied) := by
  induction entries with
  | nil => cases held
  | cons head more ih =>
    obtain ⟨other, entry⟩ := head
    rw [List.lookup_cons] at held
    by_cases here : other = place
    · subst here
      simp only [beq_self_eq_true, Option.some.injEq] at held
      subst held
      simp [setEntry, same]
    · rw [beq_false_of_ne (Ne.symm here)] at held
      simp [setEntry, here, ih held]

theorem get?_set (tree : FileTree) {place : Location} (below : place ≠ []) (entry : Entry)
    (other : Location) :
    (tree.set place entry).get? other = if other = place then some entry else tree.get? other := by
  by_cases root : other = []
  · subst root
    simp [Ne.symm below]
  · simp only [get?, root, if_false, set]
    generalize tree.entries = entries
    induction entries with
    | nil => by_cases same : other = place <;> simp [setEntry, same]
    | cons head more ih =>
      obtain ⟨first, held⟩ := head
      by_cases here : first = place
      · subst here
        by_cases same : other = first
        · simp [setEntry, same]
        · simp [setEntry, List.lookup_cons, same, beq_false_of_ne same]
      · simp only [setEntry, here, if_false, List.lookup_cons, ih]
        by_cases same : other = first
        · subst same
          simp [here]
        · simp [beq_false_of_ne same]

/-- Two trees that differ in the contents of files only. -/
def SameShape (old new : FileTree) : Prop :=
  new.emptied = old.emptied

namespace SameShape

variable {old new : FileTree}

theorem refl (tree : FileTree) : SameShape tree tree := rfl

theorem trans {third : FileTree} (one : SameShape old new) (two : SameShape new third) :
    SameShape old third :=
  Eq.trans two one

theorem setFile {place : Location} {bytes : List UInt8}
    (held : old.get? place = some (.file bytes)) (written : List UInt8) :
    SameShape old (old.set place (.file written)) := by
  have below : place ≠ [] := by
    rintro rfl
    simp at held
  simp only [get?, below, if_false] at held
  unfold SameShape emptied set
  simp only [setEntry_emptied held (rfl : (Entry.file written).emptied = (Entry.file bytes).emptied)]

theorem locate_eq (same : SameShape old new) (path : Path) (approach : Approach) :
    new.locate path approach = old.locate path approach := by
  rw [← locate_emptied new, same, locate_emptied]

theorem foundBelow_eq (same : SameShape old new) (selection : Selection) (base : Location) :
    new.foundBelow selection base = old.foundBelow selection base := by
  rw [foundBelow, foundBelow, ← filesBelow_emptied new, same, filesBelow_emptied]

theorem map_get?_eq (same : SameShape old new) (place : Location) :
    (new.get? place).map Entry.emptied = (old.get? place).map Entry.emptied := by
  rw [← get?_emptied, ← get?_emptied, same]

theorem directory_iff (same : SameShape old new) (place : Location) :
    new.get? place = some .directory ↔ old.get? place = some .directory := by
  have kinds := same.map_get?_eq place
  cases first : new.get? place with
  | none => cases second : old.get? place <;> simp_all
  | some entry =>
    cases second : old.get? place with
    | none => simp_all
    | some other => cases entry <;> cases other <;> simp_all [Entry.emptied]

theorem proper (same : SameShape old new) (proper : old.Proper) : new.Proper := by
  have places : new.entries.map Prod.fst = old.entries.map Prod.fst := by
    have entries := congrArg (fun tree => tree.entries.map Prod.fst) same
    simpa [emptied, Function.comp_def] using entries
  have here : new.workingDirectory = old.workingDirectory :=
    congrArg (fun tree => tree.workingDirectory) (same : new.emptied = old.emptied)
  refine ⟨?_, ?_, ?_, ?_⟩
  · intro entry member name inside
    have listed : entry.1 ∈ old.entries.map Prod.fst := by
      rw [← places]
      exact List.mem_map_of_mem member
    obtain ⟨other, held, spelled⟩ := List.mem_map.mp listed
    exact proper.named other held name (spelled ▸ inside)
  · rw [places]
    exact proper.distinct
  · intro place name held
    have kinds := congrArg Option.isSome (same.map_get?_eq (place ++ [name]))
    rw [Option.isSome_map, Option.isSome_map] at kinds
    exact (same.directory_iff place).mpr (proper.inDirectory place name (kinds ▸ held))
  · rw [here]
    exact (same.directory_iff _).mpr proper.working

end SameShape

end FileTree

end ApiMigration
