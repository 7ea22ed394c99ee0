import ApiMigration.Proofs.FileTree.Scan
import ApiMigration.Proofs.FileTree.Sound
import ApiMigration.Proofs.Sorted
import Mathlib.Data.List.Induction
import Mathlib.Data.List.Nodup

/-!
The files that a scan finds. In a tree as a file system keeps it, the path of a file that was found
leads to the file, unless it is longer than a path may be; links elsewhere in the tree make no
difference.
-/

namespace ApiMigration

namespace FileTree

/-- A tree as a file system keeps it: entries have names, each place holds one entry, everything is
in a directory, and the working directory is there. -/
structure Proper (tree : FileTree) : Prop where
  named : ∀ entry ∈ tree.entries, ∀ name ∈ entry.1, IsFileName name
  distinct : (tree.entries.map Prod.fst).Nodup
  inDirectory : ∀ place name, (tree.get? (place ++ [name])).isSome →
    tree.get? place = some .directory
  working : tree.get? tree.workingDirectory = some .directory

namespace Proper

variable {tree : FileTree}

theorem of_entries (named : ∀ entry ∈ tree.entries, ∀ name ∈ entry.1, IsFileName name)
    (distinct : (tree.entries.map Prod.fst).Nodup)
    (nested : ∀ entry ∈ tree.entries, tree.get? entry.1.dropLast = some .directory)
    (working : tree.get? tree.workingDirectory = some .directory) : tree.Proper where
  named := named
  distinct := distinct
  inDirectory := inDirectory_of_entries nested
  working := working

theorem directory_above (proper : tree.Proper) {place below : Location} (further : below ≠ [])
    (held : (tree.get? (place ++ below)).isSome) : tree.get? place = some .directory := by
  induction below using List.reverseRecOn with
  | nil => exact absurd rfl further
  | append_singleton below name ih =>
    rw [← List.append_assoc] at held
    have directory := proper.inDirectory _ name held
    by_cases last : below = []
    · rwa [last, List.append_nil] at directory
    · exact ih last (by simp [directory])

theorem absent_below (proper : tree.Proper) {place : Location} (absent : tree.get? place = none)
    (below : Location) : tree.get? (place ++ below) = none := by
  by_cases here : below = []
  · rwa [here, List.append_nil]
  · by_contra present
    have directory := proper.directory_above here (Option.isSome_iff_ne_none.mpr present)
    rw [absent] at directory
    cases directory

theorem start (proper : tree.Proper) (path : Path) :
    tree.get? (tree.start path) = some .directory :=
  get?_start proper.working path

theorem isFileName (proper : tree.Proper) {place : Location} {entry : Entry}
    (held : tree.get? place = some entry) : ∀ name ∈ place, IsFileName name := by
  intro name member
  have below : place ≠ [] := List.ne_nil_of_mem member
  exact proper.named _ (mem_entries_of_get? below held) name member

end Proper

/-- Names that lead on from a directory: through directories, and at the end not to a link. -/
structure Leads (tree : FileTree) (here : Location) (names : List String) : Prop where
  named : ∀ name ∈ names, IsFileName name
  directories : ∀ front back, names = front ++ back → back ≠ [] →
    tree.get? (here ++ front) = some .directory
  unlinked : ∀ target, tree.get? (here ++ names) ≠ some (.link target)

namespace Leads

variable {tree : FileTree} {here : Location} {name : String} {names : List String}

theorem tail (leads : Leads tree here (name :: names)) : Leads tree (here ++ [name]) names where
  named := fun other member => leads.named other (List.mem_cons_of_mem _ member)
  directories := by
    intro front back split further
    have directory := leads.directories (name :: front) back (by rw [split]; rfl) further
    rwa [List.append_assoc, List.singleton_append]
  unlinked := by
    intro target
    rw [List.append_assoc, List.singleton_append]
    exact leads.unlinked target

theorem rest_not_void (leads : Leads tree here names) :
    ¬ (names ≠ [] ∧ names.all (· == "") = true) := by
  rintro ⟨further, void⟩
  obtain ⟨name, more, rfl⟩ := List.exists_cons_of_ne_nil further
  have empty : name = "" := by
    simp only [List.all_cons, Bool.and_eq_true, beq_iff_eq] at void
    exact void.1
  exact (leads.named name List.mem_cons_self).solid empty

theorem isName (leads : Leads tree here (name :: names)) (wantsFile : Bool) :
    IsName wantsFile name names := by
  have named := leads.named name List.mem_cons_self
  refine ⟨not_or.mpr ⟨named.solid, named.elsewhere⟩, named.downward, ?_, named.short⟩
  exact fun slash => leads.tail.rest_not_void slash.2

theorem walk_eq (leads : Leads tree here names) (approach : Approach) (links : Nat) :
    tree.walk approach links here names = .ok (here ++ names) := by
  induction names generalizing here with
  | nil => rw [walk_nil, List.append_nil]
  | cons name names ih =>
    rw [walk_name (leads.isName _)]
    by_cases last : names = []
    · subst last
      cases held : tree.get? (here ++ [name]) with
      | none => rfl
      | some entry =>
        cases entry with
        | directory => exact walk_nil
        | file bytes => rfl
        | link target => exact absurd held (leads.unlinked target)
    · simp only [leads.directories [name] names rfl last]
      rw [ih leads.tail, List.append_assoc, List.singleton_append]

end Leads

section Locate

variable {tree : FileTree} {path root : Path} {approach : Approach} {place base : Location}

theorem Admissible.of_joinAll {names : List String} (admissible : Admissible (root.joinAll names))
    (written : root.text ≠ "") (slashFree : ∀ name ∈ names, '/' ∉ name.toList) :
    Admissible root := by
  induction names generalizing root with
  | nil => exact admissible
  | cons name names ih =>
    have relative : (⟨name⟩ : Path).isAbsolute = false :=
      Path.isAbsolute_of_slash_not_mem (slashFree name List.mem_cons_self)
    obtain ⟨more, longer⟩ := Path.exists_text_join root relative
    have inner : Admissible (root.join ⟨name⟩) := by
      refine ih admissible ?_ fun other member => slashFree other (List.mem_cons_of_mem _ member)
      rw [longer]
      simp [written]
    exact inner.of_join relative written

theorem exists_front_joinAll {names : List String} (tree : FileTree) (written : root.text ≠ "")
    (further : names ≠ []) (solid : ∀ name ∈ names, name ≠ "")
    (slashFree : ∀ name ∈ names, '/' ∉ name.toList) :
    tree.start (root.joinAll names) = tree.start root ∧
      ∃ front, front.filter isSolid = (root.parts.map String.ofList).filter isSolid ∧
        (root.joinAll names).parts.map String.ofList = front ++ names := by
  obtain ⟨_, same, front, spelled, whole⟩ := Path.parts_joinAll written further solid slashFree
  refine ⟨by rw [start, start, same], front.map String.ofList, ?_, ?_⟩
  · rcases spelled with spelled | spelled
    · rw [spelled]
    · simp [spelled, isSolid]
  · simp [whole, Function.comp_def]

theorem locate_joinAll {names : List String} (located : tree.locate root = .ok base)
    (directory : tree.get? base = some .directory) (further : names ≠ [])
    (leads : Leads tree base names) (admissible : Admissible (root.joinAll names)) :
    tree.locate (root.joinAll names) approach = .ok (base ++ names) := by
  have upper := admissible_of_locate located
  obtain ⟨started, front, same, whole⟩ := exists_front_joinAll tree upper.written further
    (fun name member => (leads.named name member).solid)
    (fun name member => (leads.named name member).slashFree)
  rw [locate_eq_walk upper, walk_eq_ok_iff_trail] at located
  rw [locate_eq_walk admissible, started, whole]
  apply (located.of_filter directory same).walk_append directory
  · simpa [further] using leads.rest_not_void
  · exact leads.walk_eq approach

theorem Proper.leads {names : List String} {entry : Entry} (proper : tree.Proper)
    (held : tree.get? (base ++ names) = some entry) (solid : ∀ target, entry ≠ .link target) :
    Leads tree base names where
  named := fun name member => proper.isFileName held name (List.mem_append_right _ member)
  directories := by
    rintro front back rfl further
    rw [← List.append_assoc] at held
    exact proper.directory_above further (by rw [held]; rfl)
  unlinked := by
    intro target linked
    rw [held] at linked
    exact solid target (Option.some.inj linked)

end Locate

section Below

variable {tree : FileTree} {base names : Location} {selection : Selection}

theorem lookup_eq_some_iff_mem {entries : List (Location × Entry)}
    (distinct : (entries.map Prod.fst).Nodup) {place : Location} {entry : Entry} :
    entries.lookup place = some entry ↔ (place, entry) ∈ entries := by
  rw [List.lookup_eq_some_iff]
  constructor
  · rintro ⟨before, after, rfl, _⟩
    exact List.mem_append_cons_self
  · intro member
    obtain ⟨before, after, whole⟩ := List.append_of_mem member
    rw [whole, List.map_append, List.map_cons, List.nodup_append] at distinct
    refine ⟨before, after, whole, ?_⟩
    intro other earlier
    have differs := distinct.2.2 other.1 (List.mem_map_of_mem earlier) place List.mem_cons_self
    simpa using differs.symm

theorem Proper.get?_of_mem (proper : tree.Proper) {place : Location} {entry : Entry}
    (member : (place, entry) ∈ tree.entries) (below : place ≠ []) :
    tree.get? place = some entry := by
  simp only [get?, below, if_false]
  exact (lookup_eq_some_iff_mem proper.distinct).mpr member

theorem mem_filesBelow (proper : tree.Proper) :
    names ∈ tree.filesBelow base ↔
      names ≠ [] ∧ ∃ bytes, tree.get? (base ++ names) = some (.file bytes) := by
  unfold filesBelow
  rw [List.mem_filterMap]
  constructor
  · rintro ⟨⟨place, entry⟩, member, chosen⟩
    cases entry with
    | directory => cases chosen
    | link target => cases chosen
    | file bytes =>
      simp only [Option.ite_none_right_eq_some, Option.some.injEq, Bool.and_eq_true,
        List.isPrefixOf_iff_prefix, decide_eq_true_eq] at chosen
      obtain ⟨⟨⟨more, rfl⟩, longer⟩, rfl⟩ := chosen
      rw [List.drop_left]
      have further : more ≠ [] := by
        rintro rfl
        simp at longer
      exact ⟨further, bytes, proper.get?_of_mem member (by simp [further])⟩
  · rintro ⟨further, bytes, held⟩
    refine ⟨(base ++ names, .file bytes), mem_entries_of_get? (by simp [further]) held, ?_⟩
    simp [List.length_pos_iff.mpr further]

theorem map_filesBelow_sublist (tree : FileTree) (base : Location) :
    ((tree.filesBelow base).map (base ++ ·)).Sublist (tree.entries.map Prod.fst) := by
  unfold filesBelow
  generalize tree.entries = entries
  induction entries with
  | nil => exact List.Sublist.refl _
  | cons entry more ih =>
    obtain ⟨place, held⟩ := entry
    rw [List.filterMap_cons, List.map_cons]
    split
    · exact ih.cons place
    · next found chosen =>
      have same : base ++ found = place := by
        cases held with
        | directory => cases chosen
        | link target => cases chosen
        | file bytes =>
          simp only [Option.ite_none_right_eq_some, Option.some.injEq, Bool.and_eq_true,
            List.isPrefixOf_iff_prefix] at chosen
          obtain ⟨⟨⟨more, rfl⟩, _⟩, rfl⟩ := chosen
          rw [List.drop_left]
      rw [List.map_cons, same]
      exact ih.cons_cons place

theorem nodup_foundBelow (proper : tree.Proper) : (tree.foundBelow selection base).Nodup := by
  have files : (tree.filesBelow base).Nodup :=
    List.Nodup.of_map _ ((map_filesBelow_sublist tree base).nodup proper.distinct)
  rw [foundBelow, (List.mergeSort_perm _ _).nodup_iff]
  exact files.filter _

theorem mem_foundBelow (proper : tree.Proper) :
    names ∈ tree.foundBelow selection base ↔
      selection.accepts names = true ∧
        names ≠ [] ∧ ∃ bytes, tree.get? (base ++ names) = some (.file bytes) := by
  rw [foundBelow, List.mem_mergeSort, List.mem_filter, mem_filesBelow proper, and_comm]

theorem pairwise_foundBelow (tree : FileTree) (selection : Selection) (base : Location) :
    (tree.foundBelow selection base).Pairwise fun a b => (List.compareLex compare a b).isLE :=
  pairwise_mergeSort (List.compareLex compare) _

theorem eq_of_mem_iff {first second : List Location}
    (ordered : first.Pairwise fun a b => (List.compareLex compare a b).isLE)
    (distinct : first.Nodup)
    (otherOrdered : second.Pairwise fun a b => (List.compareLex compare a b).isLE)
    (otherDistinct : second.Nodup) (same : ∀ names, names ∈ first ↔ names ∈ second) :
    first = second :=
  eq_of_sorted (List.compareLex compare) ordered otherOrdered
    ((List.perm_ext_iff_of_nodup distinct otherDistinct).mpr same)

end Below

section Cut

variable {tree : FileTree} {root : Path} {base place : Location} {names : List String}
  {approach : Approach}

theorem exists_locate_root (proper : tree.Proper) (written : root.text ≠ "")
    (further : names ≠ []) (solid : ∀ name ∈ names, name ≠ "")
    (slashFree : ∀ name ∈ names, '/' ∉ name.toList)
    (located : tree.locate (root.joinAll names) approach = .ok place) :
    ∃ base links, tree.locate root = .ok base ∧ tree.get? base = some .directory ∧
      Trail tree approach links base names place := by
  have admissible := admissible_of_locate located
  obtain ⟨started, front, same, whole⟩ :=
    exists_front_joinAll tree written further solid slashFree
  rw [locate_eq_walk admissible, started, whole, walk_eq_ok_iff_trail] at located
  obtain ⟨links, base, first, directory, onward⟩ :=
    located.cut proper.inDirectory (proper.start root) further
  refine ⟨base, links, ?_, directory, onward⟩
  rw [locate_eq_walk (admissible.of_joinAll written slashFree), walk_eq_ok_iff_trail]
  exact first.of_filter directory same.symm

end Cut

section Read

variable {tree : FileTree} {root : Path} {base names : Location} {bytes : List UInt8}

theorem Proper.locate_file {approach : Approach} (proper : tree.Proper)
    (located : tree.locate root = .ok base) (further : names ≠ [])
    (held : tree.get? (base ++ names) = some (.file bytes))
    (admissible : Admissible (root.joinAll names)) :
    tree.locate (root.joinAll names) approach = .ok (base ++ names) := by
  have directory := proper.directory_above further (by rw [held]; rfl)
  exact locate_joinAll located directory further (proper.leads held (by simp)) admissible

theorem Proper.readLossy?_file (proper : tree.Proper) (located : tree.locate root = .ok base)
    (further : names ≠ []) (held : tree.get? (base ++ names) = some (.file bytes)) :
    tree.readLossy? (root.joinAll names) =
      if Admissible (root.joinAll names) then some (String.ofList (Text.decodeLossy bytes))
      else none := by
  split
  · next admissible =>
    refine readLossy?_eq_some_iff.mpr ⟨bytes, ?_, rfl⟩
    exact read_eq_ok_iff.mpr
      ⟨base ++ names, proper.locate_file located further held admissible, held⟩
  · next refused =>
    rw [Option.eq_none_iff_forall_ne_some]
    intro text told
    obtain ⟨_, read, _⟩ := readLossy?_eq_some_iff.mp told
    obtain ⟨_, found, _⟩ := read_eq_ok_iff.mp read
    exact refused (admissible_of_locate found)

end Read

end FileTree

end ApiMigration
