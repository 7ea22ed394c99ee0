import ApiMigration.Proofs.FileTree.Sound
import ApiMigration.Proofs.Routing
import ApiMigration.Proofs.Stub.FileStem
import ApiMigration.Proofs.Stub.Run
import ApiMigration.Proofs.Target.Corpus
import ApiMigration.Workspace

/-!
A second scaffolding run does nothing. A skeleton that was dealt with stays settled while the tree
grows, the inventory of the grown tree has all that the first one had, and so whatever is planned
again is settled already.
-/

namespace ApiMigration

namespace Stub

open FileTree

/-- A path with nothing left to be done: its directory is there and something stands at its end. -/
structure Settled (tree : FileTree) (path : Path) : Prop where
  parent : tree.HasParent path
  reached : ∃ place, tree.locate path { followLast := false, wantsFile := true } = .ok place ∧
    (tree.get? place).isSome

theorem Settled.extend {old new : FileTree} {path : Path} (settled : Settled old path)
    (extended : Extends old new) (linkFree : new.LinkFree) : Settled new path := by
  obtain ⟨place, located, taken⟩ := settled.reached
  obtain ⟨entry, held⟩ := Option.isSome_iff_exists.mp taken
  refine ⟨extended.hasParent linkFree settled.parent, place, extended.locate linkFree located, ?_⟩
  simp [extended.get? held]

namespace Wrote

variable {storage : Storage} {tree after : FileTree} {path : Path} {bytes : List UInt8}
  {result : Except Failure Bool}

theorem extend (wrote : Wrote storage tree path bytes after result) : Extends tree after := by
  cases wrote with
  | failed steps => exact steps.extend
  | kept steps _ _ _ => exact steps.extend
  | created steps _ _ absent => exact steps.extend.trans (.set _ absent)
  | refused steps _ absent _ => exact steps.extend.trans (.set _ absent)

theorem sound (wrote : Wrote storage tree path bytes after result) (sound : tree.Sound) : after.Sound := by
  cases wrote with
  | failed steps => exact steps.sound sound
  | kept steps _ _ _ => exact steps.sound sound
  | created steps _ located absent => exact (steps.sound sound).set located absent (by simp)
  | refused steps located absent _ => exact (steps.sound sound).set located absent (by simp)

theorem settled {made : Bool} (wrote : Wrote storage tree path bytes after (.ok made))
    (sound : tree.Sound) : Settled after path := by
  have later := wrote.sound sound
  cases wrote with
  | kept _ prepared located taken =>
    exact ⟨hasParent_of_makeParent prepared, _, located, taken⟩
  | @created made place _ prepared located absent =>
    have extended := Extends.set (.file bytes) absent
    have parent := hasParent_of_makeParent prepared
    refine ⟨extended.hasParent later.linkFree parent, place,
      extended.locate later.linkFree located, ?_⟩
    simp [get?_set_of_absent _ absent]

end Wrote

theorem writeIfAbsent_of_settled {storage : Storage} {tree : FileTree} {path : Path}
    (settled : Settled tree path) (contents : String) :
    writeIfAbsent tree path contents storage = (tree, .ok false) := by
  unfold writeIfAbsent
  simp [makeParent_of_hasParent settled.parent,
    createNew_alreadyExists_iff.mpr settled.reached]

theorem writeAll_settles {tree after : FileTree} {stubs : List Planned}
    {report final : WriteReport} (sound : tree.Sound)
    (ran : writeAll tree report stubs = (after, .ok final)) :
    Extends tree after ∧ after.Sound ∧ ∀ stub ∈ stubs, Settled after stub.path := by
  induction stubs generalizing tree report with
  | nil =>
    cases ran
    exact ⟨.refl _, sound, by simp⟩
  | cons stub more ih =>
    rw [writeAll_cons] at ran
    cases written : writeIfAbsent tree stub.path stub.contents with
    | mk next outcome =>
      rw [written] at ran
      have wrote := wrote_writeIfAbsent written
      cases outcome with
      | error failure => cases ran
      | ok made =>
        obtain ⟨report, continued⟩ : ∃ report, writeAll next report more = (after, .ok final) := by
          cases made with
          | false => exact ⟨_, ran⟩
          | true => exact ⟨_, ran⟩
        obtain ⟨extended, later, settled⟩ := ih (wrote.sound sound) continued
        refine ⟨wrote.extend.trans extended, later, ?_⟩
        intro other member
        rcases List.mem_cons.mp member with rfl | member
        · exact (wrote.settled sound).extend extended later.linkFree
        · exact settled other member

theorem writeAll_of_settled {storage : Storage} {tree : FileTree} {stubs : List Planned}
    (settled : ∀ stub ∈ stubs, Settled tree stub.path) (report : WriteReport) :
    writeAll tree report stubs storage =
      (tree, .ok { report with existing := report.existing ++ stubs.map Planned.path }) := by
  induction stubs generalizing report with
  | nil =>
    rw [List.map_nil, List.append_nil]
    rfl
  | cons stub more ih =>
    rw [writeAll_cons,
      writeIfAbsent_of_settled (settled stub List.mem_cons_self) stub.contents]
    dsimp only
    rw [ih (fun other member => settled other (List.mem_cons_of_mem _ member)), List.map_cons,
      List.append_assoc, List.singleton_append]

namespace Scaffold

variable {scaffold : Scaffold} {sources : List SourceDeclaration} {root : Path}

theorem isPresent_of_within {first second : Target.Inventory} {declaration : SourceDeclaration}
    (within : first.Within second) (present : scaffold.isPresent first declaration = true) :
    scaffold.isPresent second declaration = true := by
  simp only [isPresent, Bool.or_eq_true] at present ⊢
  rcases present with known | named
  · exact .inl (within.contains _ _ known)
  · exact .inr (within.containsName _ named)

theorem plan_subset {first second : Target.Inventory} (within : first.Within second) :
    scaffold.plan sources second root ⊆ scaffold.plan sources first root := by
  apply List.map_subset
  intro declaration member
  rw [List.mem_filter] at member ⊢
  refine ⟨member.1, ?_⟩
  have absent := member.2
  cases present : scaffold.isPresent first declaration with
  | false => rfl
  | true =>
    rw [isPresent_of_within within present] at absent
    cases absent

theorem length_plan_add_presentCount (inventory : Target.Inventory) :
    (scaffold.plan sources inventory root).length + scaffold.presentCount sources inventory =
      sources.length := by
  have parts := List.length_eq_length_filter_add (l := sources) (scaffold.isPresent inventory)
  rw [plan, presentCount, List.length_map]
  omega

theorem isPresent_empty (scaffold : Scaffold) (declaration : SourceDeclaration) :
    scaffold.isPresent {} declaration = false := by
  simp [isPresent, Target.Inventory.contains_empty, Target.Inventory.containsName_empty]

theorem run_empty (scaffold : Scaffold) (tree : FileTree) (sources : List SourceDeclaration)
    (root : Path) :
    scaffold.run tree sources {} root =
      writeAll tree {} (sources.map (scaffold.planned root)) := by
  have nothing : scaffold.presentCount sources {} = 0 := by
    simp [presentCount, isPresent_empty]
  have all : scaffold.plan sources {} root = sources.map (scaffold.planned root) := by
    simp [plan, isPresent_empty]
  rw [run, nothing, all]

theorem isAbsolute_fileName {declaration : SourceDeclaration}
    (extracted : Source.Extracted declaration) (ending : String) :
    (⟨fileStem declaration.name ++ "." ++ ending⟩ : Path).isAbsolute = false := by
  rw [Path.isAbsolute, beq_eq_false_iff_ne, String.toList_append, String.toList_append]
  cases stem : (fileStem declaration.name).toList with
  | nil =>
    show some '.' ≠ some '/'
    decide
  | cons first rest =>
    have named := isStemChar_of_mem_fileStem extracted.isIdentifier.isNameChar
      (stem ▸ List.mem_cons_self : first ∈ (fileStem declaration.name).toList)
    rintro slash
    cases slash
    revert named
    decide

theorem isDirectory_root {tree : FileTree} {approach : Approach} {place : Location}
    (nested : tree.Nested) (entered : tree.get? (tree.start root) = some .directory)
    (slashFree : scaffold.routing.SlashFree) {declaration : SourceDeclaration}
    (extracted : Source.Extracted declaration) (written : root.text ≠ "")
    (located : tree.locate (scaffold.planned root declaration).path approach = .ok place) :
    tree.isDirectory root = true := by
  have below := Routing.isAbsolute_directory (slashFree.targetGroup extracted)
  have longer : (root.join
      (scaffold.routing.directory (scaffold.routing.targetPackage declaration))).text ≠ "" := by
    obtain ⟨more, spelled⟩ := Path.exists_text_join root below
    rw [spelled]
    simp [written]
  have inside : tree.get? (tree.start (root.join
      (scaffold.routing.directory (scaffold.routing.targetPackage declaration)))) =
      some .directory := by
    rw [FileTree.start, (Path.parts_join below written).1]
    exact entered
  have inner := isDirectory_of_locate_join nested inside
    (isAbsolute_fileName extracted scaffold.extension) longer located
  obtain ⟨upper, found, _⟩ := isDirectory_iff.mp inner
  exact isDirectory_of_locate_join nested entered below written found

end Scaffold

end Stub

namespace Workspace

open FileTree

variable {workspace : Workspace} {tree after : FileTree} {sources : List SourceDeclaration}
  {inventory : Target.Inventory}

theorem inventory_of_absent (absent : tree.isPresent workspace.targetRoot = false) :
    workspace.inventory tree = .ok {} := by
  rw [Workspace.inventory, absent, if_neg Bool.false_ne_true]

theorem inventory_eq_ok_iff (present : tree.isPresent workspace.targetRoot = true) :
    workspace.inventory tree = .ok inventory ↔
      Target.scanInventory tree workspace.settings.target workspace.targetRoot =
        .ok inventory := by
  rw [Workspace.inventory, if_pos present]
  cases Target.scanInventory tree workspace.settings.target workspace.targetRoot with
  | error failure => simp [Except.mapError]
  | ok scanned => simp [Except.mapError]

theorem rescan {report : Stub.WriteReport}
    (nested : after.Nested)
    (entered : after.get? (after.start workspace.targetRoot) = some .directory)
    (slashFree : workspace.settings.routing.SlashFree)
    (extracted : ∀ declaration ∈ sources, Source.Extracted declaration)
    (scanned : workspace.inventory tree = .ok inventory)
    (ran : workspace.settings.scaffold.run tree sources inventory workspace.targetRoot =
      (after, .ok report)) :
    ∃ later, workspace.inventory after = .ok later ∧
      (inventory = {} ∨
        ∃ base, tree.locate workspace.targetRoot = .ok base ∧
          inventory = .ofList
            (Target.declared tree workspace.settings.target workspace.targetRoot base) ∧
          later = .ofList
            (Target.declared after workspace.settings.target workspace.targetRoot base)) := by
  by_cases present : tree.isPresent workspace.targetRoot = true
  · rw [inventory_eq_ok_iff present, Target.scanInventory_eq_ok_iff] at scanned
    obtain ⟨base, located, directory, listed⟩ := scanned
    obtain ⟨_, grown, _⟩ := Stub.grown_writeAll ran
    have reached := grown.locate located
    have stays := grown.extend.get? directory
    refine ⟨_, ?_, .inr ⟨base, located, listed, rfl⟩⟩
    rw [inventory_eq_ok_iff (isPresent_of_isDirectory (isDirectory_iff.mpr ⟨base, reached, stays⟩))]
    exact Target.scanInventory_eq_ok_iff.mpr ⟨base, reached, stays, rfl⟩
  · rw [Bool.not_eq_true] at present
    rw [inventory_of_absent present] at scanned
    cases scanned
    by_cases appeared : after.isPresent workspace.targetRoot = true
    · -- the target tree appeared, so some skeleton was written below it
      have directory : after.isDirectory workspace.targetRoot = true := by
        cases planned : workspace.settings.scaffold.plan sources {} workspace.targetRoot with
        | nil =>
          rw [Stub.Scaffold.run, planned] at ran
          cases ran
          rw [present] at appeared
          cases appeared
        | cons stub more =>
          have member : stub ∈ workspace.settings.scaffold.plan sources {} workspace.targetRoot := by
            simp [planned]
          obtain ⟨place, reached, _⟩ := Stub.locate_of_writeAll ran member
          obtain ⟨declaration, listed, rfl⟩ := List.mem_map.mp member
          obtain ⟨base, located, _⟩ := isPresent_iff.mp appeared
          exact Stub.Scaffold.isDirectory_root nested entered slashFree
            (extracted declaration (List.mem_of_mem_filter listed))
            (admissible_of_locate located).written reached
      obtain ⟨grown, rescanned⟩ := Target.exists_scanInventory _ directory
      exact ⟨grown, (inventory_eq_ok_iff appeared).mpr rescanned, .inl rfl⟩
    · rw [Bool.not_eq_true] at appeared
      exact ⟨{}, inventory_of_absent appeared, .inl rfl⟩

/-- After a run that succeeded, a second run on the same sources, with the inventory scanned anew,
succeeds, makes nothing, changes nothing and accounts for every source. -/
theorem scaffold_again_changes_nothing {storage : Storage} {report : Stub.WriteReport}
    (sound : tree.Sound)
    (slashFree : workspace.settings.routing.SlashFree)
    (extracted : ∀ declaration ∈ sources, Source.Extracted declaration)
    (scanned : workspace.inventory tree = .ok inventory)
    (ran : workspace.settings.scaffold.run tree sources inventory workspace.targetRoot storage =
      (after, .ok report)) :
    ∃ later again,
      workspace.inventory after = .ok later ∧
        workspace.settings.scaffold.run after sources later workspace.targetRoot storage =
          (after, .ok again) ∧
        again.created = [] ∧
        again.existing.length + again.present = sources.length := by
  replace ran := Stub.Scaffold.run_of_ok ran
  obtain ⟨extended, grown, settled⟩ := Stub.writeAll_settles sound ran
  obtain ⟨later, rescanned, known⟩ :=
    rescan grown.inDirectory (grown.start _) slashFree extracted scanned ran
  have within : inventory.Within later := by
    rcases known with rfl | ⟨base, _, rfl, rfl⟩
    · exact .empty later
    · exact .ofList (Target.declared_subset extended grown.linkFree _ _ base)
  have planned : ∀ stub ∈ workspace.settings.scaffold.plan sources later workspace.targetRoot,
      Stub.Settled after stub.path := by
    intro stub member
    exact settled stub (Stub.Scaffold.plan_subset within member)
  refine ⟨later, _, rescanned, Stub.writeAll_of_settled planned _, rfl, ?_⟩
  rw [List.nil_append, List.length_map]
  exact Stub.Scaffold.length_plan_add_presentCount later

/-- The skeletons of two declarations share a path, and the target tree is not there yet. -/
theorem scaffold_again_after_collision :
    let workspace : Workspace := ⟨⟨"/w"⟩, ⟨"/w/java"⟩, ⟨"/w/src"⟩, {}⟩
    let tree : FileTree := { entries := [(["w"], .directory), (["w", "note"], .file [104])] }
    let sources : List SourceDeclaration :=
      [⟨"org.a", .classType, "FooBar", "", ⟨"FooBar.java"⟩, none⟩,
       ⟨"org.a", .enumType, "fooBar", "", ⟨"x/fooBar.java"⟩, none⟩]
    let first := workspace.settings.scaffold.run tree sources {} workspace.targetRoot
    workspace.inventory tree = .ok {} ∧
      first.2 = .ok ⟨[⟨"/w/src/utils/foo_bar.cj"⟩], [⟨"/w/src/utils/foo_bar.cj"⟩], 0⟩ ∧
      ∃ later again,
        workspace.inventory first.1 = .ok later ∧
          workspace.settings.scaffold.run first.1 sources later workspace.targetRoot =
            (first.1, .ok again) ∧
          again.created = [] ∧ again.existing.length + again.present = sources.length := by
  intro workspace tree sources first
  have sound : tree.Sound := sound_of_entries (by simp [tree]) (by decide +kernel) rfl
  have slashFree : workspace.settings.routing.SlashFree := ⟨by decide, by decide +kernel⟩
  have extracted : ∀ declaration ∈ sources, Source.Extracted declaration := by
    intro declaration member
    simp only [sources, List.mem_cons, List.not_mem_nil, or_false] at member
    rcases member with rfl | rfl
    · exact ⟨"org.a", ⟨"FooBar.java"⟩, "package org.a;\npublic final class FooBar", by decide +kernel⟩
    · exact ⟨"org.a", ⟨"x/fooBar.java"⟩, "package org.a;\npublic enum fooBar", by decide +kernel⟩
  have scanned : workspace.inventory tree = .ok {} := inventory_of_absent (by decide +kernel)
  have ended : first.2 = .ok ⟨[⟨"/w/src/utils/foo_bar.cj"⟩], [⟨"/w/src/utils/foo_bar.cj"⟩], 0⟩ := by
    simp only [first, Stub.Scaffold.run_empty]
    decide +kernel
  refine ⟨scanned, ended, ?_⟩
  apply scaffold_again_changes_nothing sound slashFree extracted scanned
  exact Prod.ext rfl ended

end Workspace

end ApiMigration
