import ApiMigration.Proofs.FileTree.Chain
import ApiMigration.Proofs.Stub.Undisturbed

/-!
Scaffolding from nothing converges in one run. Below a target tree that is empty or missing every
skeleton finds its directories or makes them, and no skeleton stands where another goes; so all are
created, the scan finds exactly them, and a second run has nothing to do.
-/

namespace ApiMigration

open FileTree Text

/-- Nothing stands where a path leads: its parts lead to a directory, and on from there by names,
of which the first one is missing; without such names, the directory is empty. -/
structure FileTree.Vacant (tree : FileTree) (path : Path) (upper : Location)
    (missing : List String) : Prop where
  written : path.text ≠ ""
  entered : ∃ front, (path.parts.map String.ofList).filter isSolid = front ++ missing ∧
    Entered tree path.isAbsolute front upper
  downward : ".." ∉ missing
  free : ∀ below, below ≠ [] → missing.take 1 <+: below → tree.get? (upper ++ below) = none

namespace FileTree.Vacant

variable {tree : FileTree} {path : Path} {upper : Location} {missing : List String}

theorem free_below (vacant : Vacant tree path upper missing) {below : List String}
    (further : below ≠ []) : tree.get? (upper ++ (missing ++ below)) = none := by
  apply vacant.free
  · simp [further]
  · exact (List.take_prefix 1 missing).trans (List.prefix_append _ _)

theorem free_front (vacant : Vacant tree path upper missing) {front below : List String}
    (begun : front <+: missing ++ below) (further : front ≠ []) :
    tree.get? (upper ++ front) = none := by
  apply vacant.free front further
  obtain ⟨first, rest, rfl⟩ := List.exists_cons_of_ne_nil further
  cases missing with
  | nil => simp
  | cons name missing =>
    rw [List.cons_append, List.cons_prefix_cons] at begun
    simp [begun.1]

theorem spelled (vacant : Vacant tree path upper missing) :
    ∀ name ∈ missing, Path.IsPlain name := by
  intro name listed
  obtain ⟨front, whole, _⟩ := vacant.entered
  have member : name ∈ (path.parts.map String.ofList).filter isSolid := by
    simp [whole, listed]
  obtain ⟨inside, solid⟩ := List.mem_filter.mp member
  obtain ⟨part, among, rfl⟩ := List.mem_map.mp inside
  refine ⟨?_, ?_, ?_, ?_⟩
  · intro empty
    rw [empty] at solid
    cases solid
  · intro dot
    rw [dot] at solid
    cases solid
  · intro up
    exact vacant.downward (up ▸ listed)
  · rw [String.toList_ofList]
    exact Path.slash_not_mem_of_mem_parts among

end FileTree.Vacant

namespace Stub

theorem writeIfAbsent_paved {tree : FileTree} {path : Path} {rooted : Bool}
    {parts names : List String} {upper : Location} {name : String} (proper : tree.Proper)
    (entered : Entered tree rooted parts upper)
    (named : ∀ other ∈ names ++ [name], IsFileName other) (clear : Clear tree upper names)
    (spells : path.Spells rooted (parts ++ (names ++ [name])))
    (absent : tree.get? (upper ++ (names ++ [name])) = none) (contents : String) :
    ∃ middle, Paved tree upper names middle ∧
      middle.locate path { followLast := false, wantsFile := true } =
        .ok (upper ++ (names ++ [name])) ∧
      writeIfAbsent tree path contents =
        (middle.set (upper ++ (names ++ [name])) (.file (textBytes contents)), .ok true) := by
  obtain ⟨middle, paved, prepared, free, located⟩ :=
    entered.makeParent_paved proper named clear spells absent
  refine ⟨middle, paved, located _, ?_⟩
  have created := createNew_eq_ok_iff.mpr
    ⟨located _, free, (rfl : _ = middle.set (upper ++ (names ++ [name])) (.file []))⟩
  unfold writeIfAbsent
  simp only [prepared, created, Storage.fill, set_set]

/-- What a run has put into a tree for some declarations: the files of their skeletons, and
directories that lead to them. -/
structure Laid (scaffold : Scaffold) (root : Path) (base : Location) (old : FileTree)
    (finished : List SourceDeclaration) (now : FileTree) : Prop where
  grown : ∃ added, Grown old added now
  directories : ∀ place, now.get? place = some .directory → old.get? place = some .directory ∨
    ∃ source ∈ finished, place <+: base ++ scaffold.directories source
  files : ∀ place bytes, now.get? place = some (.file bytes) →
    old.get? place = some (.file bytes) ∨
      ∃ source ∈ finished, place = base ++ scaffold.names source
  created : ∀ source ∈ finished, now.get? (base ++ scaffold.names source) =
    some (.file (textBytes (scaffold.planned root source).contents))

/-- No name of a skeleton and no path to one is longer than the file system allows. -/
def Scaffold.Fits (scaffold : Scaffold) (root : Path) (missing : List String)
    (sources : List SourceDeclaration) : Prop :=
  ∀ source ∈ sources, Admissible (scaffold.planned root source).path ∧
    ∀ name ∈ missing ++ scaffold.names source, ¬ nameLimit < name.utf8ByteSize

instance (scaffold : Scaffold) (root : Path) (missing : List String)
    (sources : List SourceDeclaration) : Decidable (scaffold.Fits root missing sources) :=
  inferInstanceAs (Decidable (∀ source ∈ sources, _ ∧ _))

section Run

variable {scaffold : Scaffold} {root : Path} {tree now : FileTree} {upper : Location}
  {missing : List String} {finished sources : List SourceDeclaration} {source : SourceDeclaration}

theorem Laid.start (scaffold : Scaffold) (root : Path) (base : Location) (tree : FileTree) :
    Laid scaffold root base tree [] tree where
  grown := ⟨[], .refl⟩
  directories := fun _ held => .inl held
  files := fun _ _ held => .inl held
  created := by simp

theorem Laid.absent (laid : Laid scaffold root (upper ++ missing) tree finished now)
    (vacant : Vacant tree root upper missing)
    (fresh : ∀ other ∈ finished, scaffold.names other ≠ scaffold.names source) :
    now.get? (upper ++ missing ++ scaffold.names source) = none := by
  have free : tree.get? (upper ++ missing ++ scaffold.names source) = none := by
    rw [List.append_assoc]
    exact vacant.free_below (scaffold.names_ne_nil source)
  rw [Option.eq_none_iff_forall_ne_some]
  intro entry held
  -- Directories made for other skeletons have no dot in their names, and the file has one.
  cases entry with
  | directory =>
    rcases laid.directories _ held with stood | ⟨other, _, begun⟩
    · rw [free] at stood
      cases stood
    · rw [List.prefix_append_right_inj] at begun
      exact Scaffold.not_names_prefix_directories other begun
  | file bytes =>
    rcases laid.files _ _ held with stood | ⟨other, member, same⟩
    · rw [free] at stood
      cases stood
    · exact fresh other member (List.append_cancel_left same).symm
  | link target =>
    obtain ⟨_, grown⟩ := laid.grown
    rw [grown.links _ _ held] at free
    cases free

theorem Laid.clear (laid : Laid scaffold root (upper ++ missing) tree finished now)
    (vacant : Vacant tree root upper missing) :
    Clear now upper (missing ++ scaffold.directories source) := by
  intro front begun
  by_cases first : front = []
  · left
    obtain ⟨_, grown⟩ := laid.grown
    obtain ⟨_, _, entered⟩ := vacant.entered
    rw [first, List.append_nil]
    exact grown.extend.get? entered.directory
  have free := vacant.free_front begun first
  cases held : now.get? (upper ++ front) with
  | none => exact .inr rfl
  | some entry =>
    cases entry with
    | directory => exact .inl rfl
    | file bytes =>
      rcases laid.files _ _ held with stood | ⟨other, _, same⟩
      · rw [free] at stood
        cases stood
      · rw [List.append_assoc] at same
        rw [List.append_cancel_left same, List.prefix_append_right_inj] at begun
        exact absurd begun (Scaffold.not_names_prefix_directories source)
    | link target =>
      obtain ⟨_, grown⟩ := laid.grown
      rw [grown.links _ _ held] at free
      cases free

theorem Laid.next {middle : FileTree} {approach : Approach}
    (laid : Laid scaffold root (upper ++ missing) tree finished now)
    (paved : Paved now upper (missing ++ scaffold.directories source) middle)
    (located : middle.locate (scaffold.planned root source).path approach =
      .ok (upper ++ missing ++ scaffold.names source))
    (absent : middle.get? (upper ++ missing ++ scaffold.names source) = none) :
    Laid scaffold root (upper ++ missing) tree (finished ++ [source])
      (middle.set (upper ++ missing ++ scaffold.names source)
        (.file (textBytes (scaffold.planned root source).contents))) := by
  obtain ⟨_, before⟩ := laid.grown
  obtain ⟨_, between, _⟩ := paved.grown
  have last := Grown.refl.next located absent
    (by simp : ∀ target, Entry.file (textBytes (scaffold.planned root source).contents) ≠ .link target)
  refine ⟨⟨_, (before.trans between).trans last⟩, ?_, ?_, ?_⟩
  · intro place held
    rw [get?_set_of_absent _ absent] at held
    split at held
    · cases held
    · rcases paved.get?_cases held with stood | ⟨_, front, begun, rfl⟩
      · refine (laid.directories place stood).imp_right ?_
        rintro ⟨other, member, begun⟩
        exact ⟨other, List.mem_append_left _ member, begun⟩
      · refine .inr ⟨source, by simp, ?_⟩
        rwa [List.append_assoc, List.prefix_append_right_inj]
  · intro place bytes held
    rw [get?_set_of_absent _ absent] at held
    split at held
    · next here => exact .inr ⟨source, by simp, here⟩
    · rcases paved.get?_cases held with stood | ⟨directory, _⟩
      · refine (laid.files place bytes stood).imp_right ?_
        rintro ⟨other, member, same⟩
        exact ⟨other, List.mem_append_left _ member, same⟩
      · cases directory
  · intro other member
    rcases List.mem_append.mp member with member | member
    · exact last.extend.get? (between.extend.get? (laid.created other member))
    · rw [List.mem_singleton.mp member, get?_set_of_absent _ absent, if_pos rfl]

theorem Scaffold.isFileName_names (vacant : Vacant tree root upper missing)
    (extracted : Source.Extracted source) (slashFree : scaffold.routing.SlashFree)
    (clean : '/' ∉ scaffold.extension.toList)
    (short : ∀ name ∈ missing ++ scaffold.names source, ¬ nameLimit < name.utf8ByteSize) :
    ∀ name ∈ missing ++ scaffold.names source, IsFileName name := by
  intro name listed
  have spelled : Path.IsPlain name := by
    rcases List.mem_append.mp listed with inside | inside
    · exact vacant.spelled name inside
    · exact Scaffold.names_spelled extracted slashFree clean inside
  exact ⟨spelled.solid, spelled.elsewhere, spelled.downward, spelled.slashFree, short name listed⟩

theorem Scaffold.spells_planned (written : root.text ≠ "") (extracted : Source.Extracted source)
    (slashFree : scaffold.routing.SlashFree) (clean : '/' ∉ scaffold.extension.toList)
    (admissible : Admissible (scaffold.planned root source).path) :
    (scaffold.planned root source).path.Spells root.isAbsolute
      ((root.parts.map String.ofList).filter isSolid ++ scaffold.names source) := by
  have path := Scaffold.path_planned extracted slashFree clean written
  rw [path] at admissible ⊢
  refine Path.spells_joinAll written (scaffold.names_ne_nil source) ?_ ?_ admissible
  · intro name listed
    obtain ⟨solid, elsewhere, _⟩ := Scaffold.names_spelled extracted slashFree clean listed
    simp [isSolid, solid, elsewhere]
  · exact fun name listed => (Scaffold.names_spelled extracted slashFree clean listed).slashFree

theorem Laid.step (proper : tree.Proper)
    (laid : Laid scaffold root (upper ++ missing) tree finished now)
    (vacant : Vacant tree root upper missing) (extracted : Source.Extracted source)
    (slashFree : scaffold.routing.SlashFree) (clean : '/' ∉ scaffold.extension.toList)
    (fresh : ∀ other ∈ finished, scaffold.names other ≠ scaffold.names source)
    (fits : scaffold.Fits root missing [source]) :
    ∃ next, writeIfAbsent now (scaffold.planned root source).path
        (scaffold.planned root source).contents = (next, .ok true) ∧
      Laid scaffold root (upper ++ missing) tree (finished ++ [source]) next := by
  obtain ⟨admissible, short⟩ := fits source (by simp)
  obtain ⟨added, grown⟩ := laid.grown
  obtain ⟨front, whole, entered⟩ := vacant.entered
  have named := Scaffold.isFileName_names vacant extracted slashFree clean short
  have there : upper ++ (missing ++ scaffold.directories source ++ [scaffold.fileName source]) =
      upper ++ missing ++ scaffold.names source := by
    simp [Scaffold.names]
  have spells := Scaffold.spells_planned vacant.written extracted slashFree clean admissible
  have regrouped : front ++ missing ++ scaffold.names source =
      front ++ (missing ++ scaffold.directories source ++ [scaffold.fileName source]) := by
    simp [Scaffold.names]
  rw [whole, regrouped] at spells
  rw [Scaffold.names, ← List.append_assoc] at named
  have absent := laid.absent vacant fresh
  obtain ⟨middle, paved, located, wrote⟩ := writeIfAbsent_paved (grown.proper proper)
    (entered.extend grown) named (laid.clear vacant) spells (there ▸ absent)
    (scaffold.planned root source).contents
  have free := paved.absent (there ▸ absent)
  rw [there] at located wrote free
  exact ⟨_, wrote, laid.next paved located free⟩

theorem Laid.run (proper : tree.Proper)
    (laid : Laid scaffold root (upper ++ missing) tree finished now)
    (vacant : Vacant tree root upper missing)
    (extracted : ∀ source ∈ sources, Source.Extracted source)
    (slashFree : scaffold.routing.SlashFree) (clean : '/' ∉ scaffold.extension.toList)
    (distinct : ((finished ++ sources).map scaffold.names).Nodup)
    (fits : scaffold.Fits root missing sources) (report : WriteReport) :
    ∃ after final, writeAll now report (sources.map (scaffold.planned root)) = (after, .ok final) ∧
      Laid scaffold root (upper ++ missing) tree (finished ++ sources) after := by
  induction sources generalizing now finished report with
  | nil => exact ⟨now, report, rfl, by rwa [List.append_nil]⟩
  | cons source sources ih =>
    have fresh : ∀ other ∈ finished, scaffold.names other ≠ scaffold.names source := by
      intro other member same
      rw [List.map_append, List.nodup_append] at distinct
      exact distinct.2.2 _ (List.mem_map_of_mem member) _ (by simp) same
    obtain ⟨next, wrote, further⟩ := laid.step proper vacant
      (extracted source List.mem_cons_self) slashFree clean fresh
      (fun other member => fits other (by simp [List.mem_singleton.mp member]))
    rw [List.append_cons] at distinct ⊢
    rw [List.map_cons, writeAll_cons, wrote]
    exact ih further (fun other member => extracted other (List.mem_cons_of_mem _ member)) distinct
      (fun other member => fits other (List.mem_cons_of_mem _ member)) _

end Run

end Stub

namespace Workspace

variable {workspace : Workspace} {tree after : FileTree} {sources : List SourceDeclaration}
  {upper : Location} {missing : List String}

def counterpart (workspace : Workspace) (source : SourceDeclaration) : TargetDeclaration where
  package := workspace.settings.routing.targetPackage source
  kind := source.kind.counterpart
  name := source.name
  origin := (workspace.settings.scaffold.planned workspace.targetRoot source).path

section Laid

variable (proper : tree.Proper) (wellFormed : workspace.settings.WellFormed)
  (clean : '/' ∉ workspace.settings.target.extension.toList)
  (extracted : ∀ source ∈ sources, Source.Extracted source)
  (vacant : Vacant tree workspace.targetRoot upper missing)
  (fits : workspace.settings.scaffold.Fits workspace.targetRoot missing sources)
  (laid : Stub.Laid workspace.settings.scaffold workspace.targetRoot (upper ++ missing) tree
    sources after)
include proper wellFormed clean extracted vacant fits laid

variable (unfiltered : workspace.settings.target.excludedPaths = [])
  (distinct : (sources.map workspace.settings.scaffold.names).Nodup)
include unfiltered distinct

end Laid

end Workspace

end ApiMigration
