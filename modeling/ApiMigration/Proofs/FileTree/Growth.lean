import ApiMigration.FileTree.Failure

/-!
Growth of a tree. The operations that make files and directories only ever add entries at places
where nothing stands, so whatever a tree holds is held by every later one.
-/

namespace ApiMigration

namespace FileTree

@[simp] theorem get?_root (tree : FileTree) : tree.get? [] = some .directory := by
  simp [get?]

theorem setEntry_of_absent {place : Location} {entry : Entry} {entries : List (Location × Entry)}
    (absent : entries.lookup place = none) :
    setEntry place entry entries = entries ++ [(place, entry)] := by
  induction entries with
  | nil => rfl
  | cons head more ih =>
    obtain ⟨other, held⟩ := head
    rw [List.lookup_cons] at absent
    by_cases same : place = other
    · simp [same] at absent
    · simp only [beq_false_of_ne same] at absent
      simp only [setEntry, Ne.symm same, if_false, ih absent, List.cons_append]

theorem setEntry_setEntry (place : Location) (first second : Entry)
    (entries : List (Location × Entry)) :
    setEntry place second (setEntry place first entries) = setEntry place second entries := by
  induction entries with
  | nil => simp [setEntry]
  | cons head more ih =>
    obtain ⟨other, held⟩ := head
    by_cases here : other = place
    · simp [setEntry, here]
    · simp [setEntry, here, ih]

theorem set_set (tree : FileTree) (place : Location) (first second : Entry) :
    (tree.set place first).set place second = tree.set place second := by
  simp only [set, setEntry_setEntry]

theorem ne_nil_of_absent {tree : FileTree} {place : Location} (absent : tree.get? place = none) :
    place ≠ [] := by
  rintro rfl
  simp at absent

theorem lookup_of_absent {tree : FileTree} {place : Location} (absent : tree.get? place = none) :
    tree.entries.lookup place = none := by
  simpa [get?, ne_nil_of_absent absent] using absent

theorem get?_set_of_absent {tree : FileTree} {place : Location} (entry : Entry)
    (absent : tree.get? place = none) (other : Location) :
    (tree.set place entry).get? other = if other = place then some entry else tree.get? other := by
  have free := lookup_of_absent absent
  have below := ne_nil_of_absent absent
  by_cases root : other = []
  · subst root
    simp [Ne.symm below]
  · simp only [get?, root, if_false, set, setEntry_of_absent free, List.lookup_append,
      List.lookup_cons, List.lookup_nil]
    by_cases same : other = place
    · simp [same, free]
    · simp [same, beq_false_of_ne same]

theorem file_of_set {tree : FileTree} {place other : Location} {bytes held : List UInt8}
    (absent : tree.get? place = none)
    (found : (tree.set place (.file bytes)).get? other = some (.file held)) :
    other = place ∧ held = bytes ∨ tree.get? other = some (.file held) := by
  rw [get?_set_of_absent _ absent] at found
  by_cases here : other = place
  · rw [if_pos here] at found
    cases found
    exact .inl ⟨here, rfl⟩
  · rw [if_neg here] at found
    exact .inr found

/-- One tree holds all that another held, in the same order, and starts relative paths from the
same directory. -/
structure Extends (old new : FileTree) : Prop where
  workingDirectory_eq : new.workingDirectory = old.workingDirectory
  entries_prefix : old.entries <+: new.entries

namespace Extends

theorem refl (tree : FileTree) : Extends tree tree :=
  ⟨rfl, List.prefix_refl _⟩

theorem trans {first second third : FileTree} (one : Extends first second)
    (two : Extends second third) : Extends first third :=
  ⟨two.workingDirectory_eq.trans one.workingDirectory_eq,
    one.entries_prefix.trans two.entries_prefix⟩

theorem set {tree : FileTree} {place : Location} (entry : Entry)
    (absent : tree.get? place = none) : Extends tree (tree.set place entry) := by
  refine ⟨rfl, [(place, entry)], ?_⟩
  exact (setEntry_of_absent (lookup_of_absent absent)).symm

theorem get? {old new : FileTree} (extended : Extends old new) {place : Location} {entry : Entry}
    (held : old.get? place = some entry) : new.get? place = some entry := by
  obtain ⟨added, whole⟩ := extended.entries_prefix
  by_cases root : place = []
  · subst root
    simpa using held
  · simp only [FileTree.get?, root, if_false] at held ⊢
    rw [← whole, List.lookup_append, held, Option.some_or]

theorem absent {old new : FileTree} (extended : Extends old new) {place : Location}
    (free : new.get? place = none) : old.get? place = none := by
  rw [Option.eq_none_iff_forall_ne_some]
  intro entry held
  rw [extended.get? held] at free
  cases free

end Extends

def LinkFree (tree : FileTree) : Prop :=
  ∀ place target, tree.get? place ≠ some (.link target)

theorem mem_entries_of_get? {tree : FileTree} {place : Location} {entry : Entry}
    (below : place ≠ []) (held : tree.get? place = some entry) : (place, entry) ∈ tree.entries := by
  simp only [get?, below, if_false] at held
  obtain ⟨before, after, whole, _⟩ := List.lookup_eq_some_iff.mp held
  simp [whole]

theorem linkFree_of_entries {tree : FileTree}
    (clear : ∀ entry ∈ tree.entries, ∀ target, entry.2 ≠ .link target) : tree.LinkFree := by
  intro place target held
  by_cases root : place = []
  · simp [get?, root] at held
  · exact clear _ (mem_entries_of_get? root held) target rfl

theorem LinkFree.set {tree : FileTree} (linkFree : tree.LinkFree) {place : Location}
    {entry : Entry} (absent : tree.get? place = none) (solid : ∀ target, entry ≠ .link target) :
    (tree.set place entry).LinkFree := by
  intro other target held
  rw [get?_set_of_absent entry absent] at held
  split at held
  · exact solid target (Option.some.inj held)
  · exact linkFree other target held

end FileTree

end ApiMigration
