import ApiMigration.Command.Run
import ApiMigration.Proofs.Match.Assess
import ApiMigration.Proofs.Path.Relative
import ApiMigration.Proofs.Target.Corpus
import ApiMigration.Proofs.Target.Placeholder

/-!
The placeholder gate against the statuses. Both look at the files of the target library, one line by
line and one at the text as a whole, so a match counts as planned exactly when its file stops the
gate.
-/

namespace ApiMigration

open Text

namespace Target

variable {tree : FileTree} {settings : TargetSettings} {root : Path} {inventory : Inventory}
  {marker : String}

theorem exists_scan_of_scanInventory (scanned : scanInventory tree settings root = .ok inventory)
    (marker : String) :
    ∃ paths, tree.scan root (selection settings) = .ok paths ∧
      findPlaceholders tree settings root marker =
        .ok (paths.flatMap fun path =>
          (tree.readLossy? path).elim [] fun text => placeholders path text marker) ∧
      inventory.toList =
        paths.flatMap fun path => (tree.readLossy? path).elim [] (declarations path) := by
  obtain ⟨found, collected, rfl⟩ := scanInventory_eq_ok_iff_collect.mp scanned
  obtain ⟨paths, walked, rfl⟩ := collect_eq_ok_iff.mp collected
  exact ⟨paths, walked, collect_eq_ok_iff.mpr ⟨paths, walked, rfl⟩, Inventory.toList_ofList _⟩

/-- The file of a known declaration can be read, and it has placeholder lines exactly when its text
holds the marker. -/
theorem exists_hit_iff_holds (scanned : scanInventory tree settings root = .ok inventory)
    {hits : List Placeholder} (found : findPlaceholders tree settings root marker = .ok hits)
    (solid : marker ≠ "") (single : '\n' ∉ marker.toList)
    (ends : marker.toList.getLast? ≠ some '\r') {target : TargetDeclaration}
    (known : target ∈ inventory.toList) :
    ∃ text, tree.readLossy? target.origin = some text ∧
      ((∃ hit ∈ hits, hit.path = target.origin) ↔ holds text marker = true) := by
  obtain ⟨paths, _, collected, whole⟩ := exists_scan_of_scanInventory scanned marker
  rw [found] at collected
  cases collected
  rw [whole, mem_flatMap_readLossy?] at known
  obtain ⟨path, listed, text, read, declared⟩ := known
  rw [origin_of_mem_declarations declared]
  refine ⟨text, read, ?_⟩
  have marked : placeholders path text marker ≠ [] ↔ holds text marker = true :=
    placeholders_ne_nil_iff_holds solid single ends
  rw [← marked]
  constructor
  · rintro ⟨hit, member, same⟩
    obtain ⟨other, _, otherText, otherRead, inside⟩ := mem_flatMap_readLossy?.mp member
    rw [← path_of_mem_placeholders inside, same, read, Option.some.injEq] at otherRead
    subst otherRead
    rw [← path_of_mem_placeholders inside, same] at inside
    exact List.ne_nil_of_mem inside
  · intro some
    obtain ⟨hit, inside⟩ := List.exists_mem_of_ne_nil _ some
    exact ⟨hit, mem_flatMap_readLossy?.mpr ⟨path, listed, text, read, inside⟩,
      path_of_mem_placeholders inside⟩

theorem eq_of_components_eq (proper : tree.Proper) {paths : List Path}
    (scanned : tree.scan root (selection settings) = .ok paths) {path other : Path}
    (listed : path ∈ paths) (otherListed : other ∈ paths)
    (same : path.components = other.components) : path = other := by
  obtain ⟨base, located, _, rfl⟩ := FileTree.scan_eq_ok_iff.mp scanned
  have written := (FileTree.admissible_of_locate located).written
  have plain {names : Location} (found : names ∈ tree.foundBelow (selection settings) base) :
      ∀ name ∈ names, Path.IsPlain name := by
    obtain ⟨_, _, bytes, held⟩ := (FileTree.mem_foundBelow proper).mp found
    intro name member
    exact (proper.isFileName held name (List.mem_append_right base member)).plain
  obtain ⟨names, found, rfl⟩ := List.mem_map.mp listed
  obtain ⟨others, otherFound, rfl⟩ := List.mem_map.mp otherListed
  rw [Path.joinAll_inj_of_components written (plain found) (plain otherFound) same]

end Target

namespace Match.Classification

variable {rules : Classification} {source : SourceDeclaration}

theorem statusIn_of_readLossy? {tree : FileTree} {target : TargetDeclaration} {text : String}
    (supported : rules.isUnsupported source = false)
    (read : tree.readLossy? target.origin = some text) :
    rules.statusIn tree source (some target) =
      if holds text rules.placeholderMarker then .planned else .implemented := by
  simp only [statusIn, status, supported, Option.bind_some, read, Bool.false_eq_true, if_false]

end Match.Classification

theorem Command.exitCode_check {workspace : Workspace} {tree : FileTree}
    {hits : List Target.Placeholder}
    (found : Target.findPlaceholders tree workspace.settings.target workspace.targetRoot
      workspace.settings.classification.placeholderMarker = .ok hits) (json : Bool) :
    (check workspace tree json).exitCode = if hits.isEmpty then 0 else 1 := by
  unfold check
  simp only [found]
  cases json <;> rfl

namespace Workspace

/-- A supported declaration with a match is planned exactly when the gate stops at the file of the
match. So when the gate lets a library pass, all such declarations count as implemented. -/
theorem placeholder_gate_agrees (workspace : Workspace) (tree : FileTree)
    {inventory : Target.Inventory}
    (solid : workspace.settings.classification.placeholderMarker ≠ "")
    (single : '\n' ∉ workspace.settings.classification.placeholderMarker.toList)
    (plain : '\r' ∉ workspace.settings.classification.placeholderMarker.toList)
    (scanned : Target.scanInventory tree workspace.settings.target workspace.targetRoot =
      .ok inventory) :
    ∃ hits,
      Target.findPlaceholders tree workspace.settings.target workspace.targetRoot
          workspace.settings.classification.placeholderMarker = .ok hits ∧
      (∀ target ∈ inventory.toList, ∀ source,
        workspace.settings.classification.isUnsupported source = false →
        (workspace.settings.classification.statusIn tree source (some target) = .planned ↔
          ∃ hit ∈ hits, hit.path = target.origin)) ∧
      (tree.Proper → ∀ target ∈ inventory.toList, ∀ hit ∈ hits,
        hit.path.components = target.origin.components → hit.path = target.origin) ∧
      ∀ json, (Command.check workspace tree json).exitCode = 0 →
        ∀ sources, ∀ assessment ∈ workspace.assess tree sources inventory,
          assessment.best.isSome →
          workspace.settings.classification.isUnsupported assessment.source = false →
          workspace.settings.classification.overrides.lookup assessment.source.name = none →
          assessment.status = .implemented := by
  obtain ⟨paths, walked, found, whole⟩ := Target.exists_scan_of_scanInventory scanned
    workspace.settings.classification.placeholderMarker
  have ends : workspace.settings.classification.placeholderMarker.toList.getLast? ≠ some '\r' :=
    fun last => plain (List.mem_of_getLast? last)
  have hitAt {target : TargetDeclaration} (known : target ∈ inventory.toList) :=
    Target.exists_hit_iff_holds scanned found solid single ends known
  refine ⟨_, found, ?_, ?_, ?_⟩
  · intro target known source supported
    obtain ⟨text, read, marked⟩ := hitAt known
    rw [Match.Classification.statusIn_of_readLossy? supported read, marked]
    simp
  · intro proper target known hit member same
    rw [whole, Target.mem_flatMap_readLossy?] at known
    obtain ⟨path, listed, _, _, declared⟩ := known
    obtain ⟨other, otherListed, _, _, inside⟩ := Target.mem_flatMap_readLossy?.mp member
    rw [Target.origin_of_mem_declarations declared,
      Target.path_of_mem_placeholders inside] at same ⊢
    exact Target.eq_of_components_eq proper walked otherListed listed same
  · intro json passed sources assessment assessed matched supported free
    obtain ⟨source, _, rfl⟩ := List.mem_map.mp assessed
    obtain ⟨target, best⟩ := Option.isSome_iff_exists.mp matched
    have known := Target.Inventory.mem_toList_of_mem_candidates (Match.Scoring.mem_of_best? best)
    obtain ⟨text, read, marked⟩ := hitAt known
    have clean : holds text workspace.settings.classification.placeholderMarker = false := by
      rw [Command.exitCode_check found] at passed
      have nowhere : (paths.flatMap fun path => (tree.readLossy? path).elim [] fun text =>
          Target.placeholders path text
            workspace.settings.classification.placeholderMarker) = [] := by
        simpa using passed
      rw [nowhere] at marked
      simpa using marked
    calc
      _ = workspace.settings.classification.statusIn tree source (some target) :=
        Match.status_assess tree best free
      _ = if holds text workspace.settings.classification.placeholderMarker then .planned
          else .implemented :=
        Match.Classification.statusIn_of_readLossy? supported read
      _ = .implemented := by
        rw [clean]
        rfl

theorem placeholder_gate_agrees_before_line_end :
    let workspace : Workspace := ⟨⟨"/w"⟩, ⟨"/w/java"⟩, ⟨"/w/src"⟩, {}⟩
    let treeOf (text : String) : FileTree :=
      { entries := [(["w"], .directory), (["w", "src"], .directory),
          (["w", "src", "a.cj"], .file (FileTree.textBytes text))] }
    let unfinished := treeOf "package p\r\npublic class A\r\n// is not implemented\r\n"
    let finished := treeOf "package p\r\npublic class A\r\n// is not\nimplemented\r\n"
    let source : SourceDeclaration := ⟨"org.a", .classType, "A", "", ⟨"A.java"⟩, none⟩
    let target : TargetDeclaration := ⟨"p", .classType, "A", ⟨"/w/src/a.cj"⟩⟩
    (workspace.settings.classification.statusIn unfinished source (some target) = .planned ∧
      ∃ hits, Target.findPlaceholders unfinished workspace.settings.target workspace.targetRoot
          workspace.settings.classification.placeholderMarker = .ok hits ∧
        ∃ hit ∈ hits, hit.path = target.origin) ∧
      (Command.check workspace finished false).exitCode = 0 ∧
      ∀ assessment ∈ workspace.assess finished [source] (.ofList [target]),
        assessment.best.isSome ∧ assessment.status = .implemented := by
  intro workspace treeOf unfinished finished source target
  have scanned {tree : FileTree} (located : tree.locate ⟨"/w/src"⟩ = .ok ["w", "src"])
      (directory : tree.get? ["w", "src"] = some .directory)
      (declared : [target] =
        Target.declared tree workspace.settings.target ⟨"/w/src"⟩ ["w", "src"]) :
      Target.scanInventory tree workspace.settings.target workspace.targetRoot =
        .ok (.ofList [target]) :=
    Target.scanInventory_eq_ok_iff.mpr
      ⟨_, located, directory, congrArg Target.Inventory.ofList declared⟩
  have solid : workspace.settings.classification.placeholderMarker ≠ "" := by decide
  have single : '\n' ∉ workspace.settings.classification.placeholderMarker.toList := by decide
  have plain : '\r' ∉ workspace.settings.classification.placeholderMarker.toList := by decide
  constructor
  · obtain ⟨hits, found, agrees, _⟩ := placeholder_gate_agrees workspace unfinished solid single
      plain (scanned (by decide +kernel) (by decide +kernel) (by decide +kernel))
    have planned : workspace.settings.classification.statusIn unfinished source (some target) =
        .planned := by
      decide +kernel
    refine ⟨planned, hits, found, (agrees target ?_ source (by decide)).mp planned⟩
    simp [Target.Inventory.toList_ofList]
  · obtain ⟨hits, found, _, _, passes⟩ := placeholder_gate_agrees workspace finished solid single
      plain (scanned (by decide +kernel) (by decide +kernel) (by decide +kernel))
    have passed : (Command.check workspace finished false).exitCode = 0 := by decide +kernel
    refine ⟨passed, ?_⟩
    intro assessment assessed
    have same : assessment.source = source := by
      obtain ⟨_, listed, rfl⟩ := List.mem_map.mp assessed
      exact List.mem_singleton.mp listed
    have matched : assessment.best.isSome := by
      obtain ⟨_, listed, rfl⟩ := List.mem_map.mp assessed
      rw [List.mem_singleton.mp listed]
      simp only [Match.assess, Target.Inventory.candidates_ofList]
      decide
    refine ⟨matched, passes false passed [source] assessment assessed matched ?_ ?_⟩
    · rw [same]
      decide
    · rw [same]
      rfl

end Workspace

end ApiMigration
