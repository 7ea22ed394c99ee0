import ApiMigration.Proofs.Match.Assess
import ApiMigration.Proofs.Settings
import ApiMigration.Proofs.Stub.Place
import ApiMigration.Proofs.Stub.Rerun
import ApiMigration.Proofs.Text.Utf8
import Mathlib.Data.List.Infix

/-!
Scaffolding does not disturb assessments. Every new file declares one name that the library did not
have, so the candidates of any other name are the same as before, in the same order and in files
that did not change. A declaration whose skeleton was created finds the skeleton.
-/

namespace ApiMigration

open FileTree Text

namespace Target

variable {old new : FileTree} {added : List (Location × Entry)} {settings : TargetSettings}
  {root : Path} {base : Location} {name : String}

theorem flatMap_eq_flatMap_filter {α β : Type} {items : List α} {kept : α → Bool}
    {first second : α → List β} (same : ∀ item ∈ items, kept item = true → first item = second item)
    (nothing : ∀ item ∈ items, kept item = false → first item = []) :
    items.flatMap first = (items.filter kept).flatMap second := by
  induction items with
  | nil => rfl
  | cons item items ih =>
    have rest := ih (fun other member => same other (List.mem_cons_of_mem _ member))
      (fun other member => nothing other (List.mem_cons_of_mem _ member))
    rw [List.flatMap_cons, rest]
    cases chosen : kept item with
    | true =>
      rw [List.filter_cons_of_pos chosen, List.flatMap_cons, same item List.mem_cons_self chosen]
    | false =>
      rw [List.filter_cons_of_neg (by simp [chosen]), nothing item List.mem_cons_self chosen,
        List.nil_append]

theorem filter_declared_grown (proper : old.Proper) (grown : Grown old added new)
    (located : old.locate root = .ok base)
    (others : ∀ place bytes, (place, Entry.file bytes) ∈ added → ∀ origin,
      ∀ declaration ∈ declarations origin (String.ofList (decodeLossy bytes)),
        declaration.name ≠ name) :
    ((declared new settings root base).filter fun declaration => declaration.name == name) =
      (declared old settings root base).filter fun declaration => declaration.name == name := by
  have later := grown.proper proper
  have reached := grown.locate located
  rw [declared, declared, List.filter_flatMap, List.filter_flatMap,
    ← grown.filter_foundBelow proper]
  -- Old files are read as before, and the others declare nothing that passes the filter.
  apply flatMap_eq_flatMap_filter
  · intro names listed stood
    obtain ⟨_, further, bytes, held⟩ := (mem_foundBelow later).mp listed
    obtain ⟨entry, before⟩ := Option.isSome_iff_exists.mp stood
    have same := grown.extend.get? before
    rw [held] at same
    cases same
    rw [proper.readLossy?_file located further before, later.readLossy?_file reached further held]
  · intro names listed absent
    obtain ⟨_, further, bytes, held⟩ := (mem_foundBelow later).mp listed
    have put : (base ++ names, .file bytes) ∈ added := by
      refine (grown.get?_cases held).resolve_left ?_
      intro before
      simp [before] at absent
    rw [later.readLossy?_file reached further held]
    split
    · rw [Option.elim_some, List.filter_eq_nil_iff]
      intro declaration member
      simpa using others _ bytes put _ declaration member
    · rfl

theorem readLossy?_declared (proper : old.Proper) (grown : Grown old added new)
    (located : old.locate root = .ok base) {declaration : TargetDeclaration}
    (member : declaration ∈ declared old settings root base) :
    new.readLossy? declaration.origin = old.readLossy? declaration.origin := by
  obtain ⟨names, listed, inside⟩ := List.mem_flatMap.mp member
  obtain ⟨_, further, bytes, held⟩ := (mem_foundBelow proper).mp listed
  have origin : declaration.origin = root.joinAll names := by
    cases told : old.readLossy? (root.joinAll names) with
    | none => simp [told] at inside
    | some text =>
      rw [told] at inside
      exact origin_of_mem_declarations inside
  rw [origin, proper.readLossy?_file located further held,
    (grown.proper proper).readLossy?_file (grown.locate located) further
      (grown.extend.get? held)]

end Target

namespace Stub.Scaffold

/-- The skeleton of a declaration is the one that a run created at its path. -/
structure Created (scaffold : Scaffold) (sources : List SourceDeclaration)
    (inventory : Target.Inventory) (root : Path) (report : WriteReport)
    (source : SourceDeclaration) : Prop where
  listed : (scaffold.planned root source).path ∈ report.created
  first : (scaffold.plan sources inventory root).find?
      (fun stub => stub.path = (scaffold.planned root source).path) =
    some (scaffold.planned root source)

def MeetsNoLink (scaffold : Scaffold) (tree : FileTree) (root : Path)
    (source : SourceDeclaration) : Prop :=
  ∀ base, tree.locate root = .ok base → ∀ front, front <+: scaffold.directories source →
    ∀ target, tree.get? (base ++ front) ≠ some (.link target)

theorem isPresent_ofList (scaffold : Scaffold) (listed : List TargetDeclaration)
    (source : SourceDeclaration) :
    scaffold.isPresent (.ofList listed) source =
      listed.any fun declaration => declaration.name == source.name := by
  rw [Bool.eq_iff_iff]
  simp only [isPresent, Bool.or_eq_true, Target.Inventory.contains_ofList,
    Target.Inventory.containsName_ofList, List.any_eq_true, beq_iff_eq]
  constructor
  · rintro (⟨declaration, member, _, named⟩ | found)
    · exact ⟨declaration, member, named⟩
    · exact found
  · exact .inr

end Stub.Scaffold

theorem Settings.WellFormed.declared_skeleton {settings : Settings} {tree : FileTree} {root : Path}
    {base names : Location} {source : SourceDeclaration} (wellFormed : settings.WellFormed)
    (proper : tree.Proper) (located : tree.locate root = .ok base)
    (extracted : Source.Extracted source) (further : names ≠ [])
    (held : tree.get? (base ++ names) =
      some (.file (textBytes (settings.scaffold.planned root source).contents)))
    (admissible : Admissible (root.joinAll names)) :
    (tree.readLossy? (root.joinAll names)).elim [] (Target.declarations (root.joinAll names)) =
      [⟨settings.routing.targetPackage source, source.kind.counterpart, source.name,
        root.joinAll names⟩] := by
  rw [proper.readLossy?_file located further held, if_pos admissible, textBytes, decodeLossy_encode,
    String.ofList_toList, Option.elim_some, wellFormed.declarations_planned extracted]

namespace Workspace

variable {workspace : Workspace} {tree after : FileTree} {sources : List SourceDeclaration}
  {inventory : Target.Inventory} {report : Stub.WriteReport}

theorem exists_grown_run (wellFormed : workspace.settings.WellFormed)
    (extracted : ∀ declaration ∈ sources, Source.Extracted declaration)
    {listed : List TargetDeclaration}
    (ran : workspace.settings.scaffold.run tree sources (.ofList listed) workspace.targetRoot =
      (after, .ok report)) :
    ∃ added, Grown tree added after ∧
      ∀ place bytes, (place, Entry.file bytes) ∈ added → ∀ origin,
        ∀ declaration ∈ Target.declarations origin (String.ofList (decodeLossy bytes)),
          ∀ known ∈ listed, declaration.name ≠ known.name := by
  obtain ⟨added, grown, entries⟩ := Stub.grown_writeAll ran
  refine ⟨added, grown, ?_⟩
  intro place bytes put origin declaration member known stood same
  rcases entries _ put with directory | ⟨stub, planned, held⟩
  · cases directory
  cases held
  obtain ⟨source, chosen, rfl⟩ := List.mem_map.mp planned
  rw [List.mem_filter, Stub.Scaffold.isPresent_ofList] at chosen
  rw [textBytes, decodeLossy_encode, String.ofList_toList,
    wellFormed.declarations_planned (extracted source chosen.1), List.mem_singleton] at member
  subst member
  have absent := chosen.2
  rw [Bool.not_eq_true', List.any_eq_false] at absent
  exact absent known stood (by simpa using same.symm)

theorem assess_grown {added : List (Location × Entry)} {base : Location} {source : SourceDeclaration}
    (proper : tree.Proper) (grown : Grown tree added after)
    (located : tree.locate workspace.targetRoot = .ok base)
    (others : ∀ place bytes, (place, Entry.file bytes) ∈ added → ∀ origin,
      ∀ declaration ∈ Target.declarations origin (String.ofList (decodeLossy bytes)),
        declaration.name ≠ source.name) :
    Match.assess after workspace.settings.scoring workspace.settings.classification
        (.ofList (Target.declared after workspace.settings.target workspace.targetRoot base)) source =
      Match.assess tree workspace.settings.scoring workspace.settings.classification
        (.ofList (Target.declared tree workspace.settings.target workspace.targetRoot base))
        source := by
  apply Match.assess_eq
  · rw [Target.Inventory.candidates_ofList, Target.Inventory.candidates_ofList,
      Target.filter_declared_grown proper grown located others]
  · intro target member
    rw [Target.Inventory.candidates_ofList, List.mem_filter] at member
    exact Target.readLossy?_declared proper grown located member.1

section Skeleton

variable {place : Location} {source : SourceDeclaration} (proper : after.Proper)
  (wellFormed : workspace.settings.WellFormed)
  (clean : '/' ∉ workspace.settings.target.extension.toList)
  (written : workspace.targetRoot.text ≠ "") (extracted : Source.Extracted source)
  (direct : workspace.settings.scaffold.MeetsNoLink after workspace.targetRoot source)
  (located : after.locate (workspace.settings.scaffold.planned workspace.targetRoot source).path
    { followLast := false, wantsFile := true } = .ok place)
include proper wellFormed clean written extracted direct located

theorem place_of_skeleton :
    ∃ base, after.locate workspace.targetRoot = .ok base ∧ after.get? base = some .directory ∧
      place = base ++ workspace.settings.scaffold.names source := by
  have plain : ∀ name ∈ workspace.settings.scaffold.names source, Path.IsPlain name :=
    fun name listed => Stub.Scaffold.names_spelled extracted wellFormed.slashFree clean listed
  rw [Stub.Scaffold.path_planned extracted wellFormed.slashFree clean written] at located
  obtain ⟨base, links, root, directory, trail⟩ := exists_locate_root proper written
    (workspace.settings.scaffold.names_ne_nil source)
    (fun name listed => (plain name listed).solid) (fun name listed => (plain name listed).slashFree)
    located
  exact ⟨base, root, directory, trail.place_of_plain plain rfl (direct base root)⟩

theorem candidates_of_skeleton {later : Target.Inventory}
    (unfiltered : workspace.settings.target.excludedPaths = [])
    (held : after.get? place = some (.file (textBytes
      (workspace.settings.scaffold.planned workspace.targetRoot source).contents)))
    (rescanned : workspace.inventory after = .ok later) :
    later.candidates source.name ≠ [] := by
  obtain ⟨base, root, directory, rfl⟩ :=
    place_of_skeleton proper wellFormed clean written extracted direct located
  have further := workspace.settings.scaffold.names_ne_nil source
  rw [Stub.Scaffold.path_planned extracted wellFormed.slashFree clean written] at located
  have admissible := admissible_of_locate located
  have present := isPresent_of_isDirectory (isDirectory_iff.mpr ⟨base, root, directory⟩)
  rw [inventory_eq_ok_iff present, Target.scanInventory_eq_ok_iff] at rescanned
  obtain ⟨other, again, _, rfl⟩ := rescanned
  rw [root] at again
  cases again
  have found := (mem_foundBelow proper).mpr
    ⟨wellFormed.accepts_names extracted unfiltered, further, _, held⟩
  have listed : ⟨workspace.settings.routing.targetPackage source, source.kind.counterpart,
      source.name, workspace.targetRoot.joinAll (workspace.settings.scaffold.names source)⟩ ∈
      Target.declared after workspace.settings.target workspace.targetRoot base := by
    refine List.mem_flatMap.mpr ⟨_, found, ?_⟩
    rw [wellFormed.declared_skeleton proper root extracted further held admissible]
    exact List.mem_cons_self
  rw [Target.Inventory.candidates_ofList]
  exact List.ne_nil_of_mem (List.mem_filter.mpr ⟨listed, by simp⟩)

end Skeleton

/-- A run that succeeds leaves the assessment of every source that had a match, and every source
whose skeleton it created now has one: if nothing is excluded, the extension holds no slash, and the
skeleton lies below the target tree without a link between them. -/
theorem scaffold_keeps_assessments {storage : Storage} (proper : tree.Proper)
    (wellFormed : workspace.settings.WellFormed)
    (extracted : ∀ declaration ∈ sources, Source.Extracted declaration)
    (scanned : workspace.inventory tree = .ok inventory)
    (ran : workspace.settings.scaffold.run tree sources inventory workspace.targetRoot storage =
      (after, .ok report)) :
    ∃ later, workspace.inventory after = .ok later ∧
      (∀ source ∈ sources,
        (Match.assess tree workspace.settings.scoring workspace.settings.classification inventory
          source).best ≠ none →
        Match.assess after workspace.settings.scoring workspace.settings.classification later
            source =
          Match.assess tree workspace.settings.scoring workspace.settings.classification inventory
            source) ∧
      (workspace.settings.target.excludedPaths = [] →
        '/' ∉ workspace.settings.target.extension.toList → workspace.targetRoot.text ≠ "" →
        ∀ source ∈ sources,
          workspace.settings.scaffold.Created sources inventory workspace.targetRoot report source →
          workspace.settings.scaffold.MeetsNoLink after workspace.targetRoot source →
          (Match.assess after workspace.settings.scoring workspace.settings.classification later
            source).best ≠ none) := by
  replace ran := Stub.Scaffold.run_of_ok ran
  obtain ⟨_, whole, _⟩ := Stub.grown_writeAll ran
  have grownProper := whole.proper proper
  obtain ⟨later, rescanned, known⟩ := rescan grownProper.inDirectory (grownProper.start _)
    wellFormed.slashFree extracted scanned ran
  refine ⟨later, rescanned, ?_, ?_⟩
  · intro source _ matched
    rw [Ne, Match.best_assess_eq_none_iff] at matched
    -- Without a target tree nothing had a match; with one, its scan grew by names of its own.
    rcases known with rfl | ⟨base, located, rfl, rfl⟩
    · exact absurd (Target.Inventory.candidates_ofList [] source.name) matched
    · rw [Target.Inventory.candidates_ofList] at matched
      obtain ⟨target, member⟩ := List.exists_mem_of_ne_nil _ matched
      obtain ⟨stood, named⟩ := List.mem_filter.mp member
      obtain ⟨added, grown, others⟩ := exists_grown_run wellFormed extracted ran
      apply assess_grown proper grown located
      intro place bytes put origin declaration declared
      rw [← beq_iff_eq.mp named]
      exact others place bytes put origin declaration declared target stood
  · intro unfiltered clean written source member created direct
    rw [Ne, Match.best_assess_eq_none_iff]
    obtain ⟨stub, place, first, located, _, held⟩ :=
      Stub.exists_created ran created.listed (by simp)
    rw [created.first] at first
    cases first
    exact candidates_of_skeleton grownProper wellFormed clean written (extracted source member)
      direct located unfiltered held rescanned

theorem scaffold_keeps_assessment_of_strings :
    let workspace : Workspace := ⟨⟨"/w"⟩, ⟨"/w/java"⟩, ⟨"/w/link"⟩, {}⟩
    let text := "package commons_lang4cj.utils\n\npublic class Strings \x7b\n\x7d\n"
    let tree : FileTree :=
      { entries := [(["w"], .directory), (["w", "link"], .link ⟨"src"⟩), (["w", "src"], .directory),
          (["w", "src", "strings.cj"], .file (textBytes text))] }
    let strings : SourceDeclaration := ⟨"org.a", .classType, "Strings", "", ⟨"S.java"⟩, none⟩
    let bitField : SourceDeclaration := ⟨"org.a", .classType, "BitField", "", ⟨"B.java"⟩, none⟩
    let inventory : Target.Inventory :=
      .ofList [⟨"commons_lang4cj.utils", .classType, "Strings", ⟨"/w/link/strings.cj"⟩⟩]
    let ran := workspace.settings.scaffold.run tree [strings, bitField] inventory ⟨"/w/link"⟩
    let scoring := workspace.settings.scoring
    let rules := workspace.settings.classification
    workspace.inventory tree = .ok inventory ∧
      ran.2 = .ok ⟨[⟨"/w/link/utils/bit_field.cj"⟩], [], 1⟩ ∧
      ∃ later, workspace.inventory ran.1 = .ok later ∧
        (Match.assess tree scoring rules inventory strings).best ≠ none ∧
        Match.assess ran.1 scoring rules later strings =
          Match.assess tree scoring rules inventory strings ∧
        (Match.assess ran.1 scoring rules later bitField).best ≠ none := by
  intro workspace text tree strings bitField inventory ran scoring rules
  have proper : tree.Proper :=
    .of_entries (by decide +kernel) (by decide +kernel) (by decide +kernel) rfl
  have extracted : ∀ declaration ∈ [strings, bitField], Source.Extracted declaration := by
    simp only [List.forall_mem_cons, List.not_mem_nil, false_imp_iff, implies_true, and_true]
    exact ⟨⟨"org.a", ⟨"S.java"⟩, "package org.a;\npublic class Strings", by decide +kernel⟩,
      ⟨"org.a", ⟨"B.java"⟩, "package org.a;\npublic class BitField", by decide +kernel⟩⟩
  have scanned : workspace.inventory tree = .ok inventory := by
    rw [inventory_eq_ok_iff (by decide +kernel), Target.scanInventory_eq_ok_iff]
    exact ⟨["w", "src"], by decide +kernel, by decide +kernel,
      congrArg Target.Inventory.ofList (by decide +kernel)⟩
  have known : workspace.settings.scaffold.isPresent inventory strings = true := by
    rw [Stub.Scaffold.isPresent_ofList]
    decide
  have missing : workspace.settings.scaffold.isPresent inventory bitField = false := by
    rw [Stub.Scaffold.isPresent_ofList]
    decide
  have planned : workspace.settings.scaffold.plan [strings, bitField] inventory ⟨"/w/link"⟩ =
      [workspace.settings.scaffold.planned ⟨"/w/link"⟩ bitField] := by
    simp [Stub.Scaffold.plan, known, missing]
  have written : ran = Stub.writeAll tree { present := 1 }
      [workspace.settings.scaffold.planned ⟨"/w/link"⟩ bitField] := by
    simp [ran, Stub.Scaffold.run, planned, Stub.Scaffold.presentCount, known, missing]
  have ended : ran.2 = .ok ⟨[⟨"/w/link/utils/bit_field.cj"⟩], [], 1⟩ := by
    rw [written]
    decide +kernel
  have succeeded : workspace.settings.scaffold.run tree [strings, bitField] inventory
      workspace.targetRoot = (ran.1, .ok ⟨[⟨"/w/link/utils/bit_field.cj"⟩], [], 1⟩) :=
    Prod.ext rfl ended
  obtain ⟨later, rescanned, kept, gained⟩ :=
    scaffold_keeps_assessments proper Settings.wellFormed_default extracted scanned succeeded
  have created : workspace.settings.scaffold.Created [strings, bitField] inventory
      workspace.targetRoot ⟨[⟨"/w/link/utils/bit_field.cj"⟩], [], 1⟩ bitField := by
    refine ⟨by decide +kernel, ?_⟩
    rw [planned]
    simp [workspace]
  have direct : workspace.settings.scaffold.MeetsNoLink ran.1 workspace.targetRoot bitField := by
    have reached : ran.1.locate ⟨"/w/link"⟩ = .ok ["w", "src"] := by
      rw [written]
      decide +kernel
    have entered : ∀ front ∈ (workspace.settings.scaffold.directories bitField).inits,
        ran.1.get? (["w", "src"] ++ front) = some .directory := by
      rw [written]
      decide +kernel
    intro base located front begun target linked
    rw [show ran.1.locate workspace.targetRoot = .ok ["w", "src"] from reached] at located
    cases located
    rw [entered front ((List.mem_inits _ _).mpr begun)] at linked
    cases linked
  have matched : (Match.assess tree scoring rules inventory strings).best ≠ none := by
    rw [Ne, Match.best_assess_eq_none_iff, Target.Inventory.candidates_ofList]
    decide
  refine ⟨scanned, ended, later, rescanned, matched, kept strings (by simp) matched, ?_⟩
  exact gained rfl (by decide) (by decide) bitField (by simp) created direct

theorem inventory_of_nothing {base : Location} (located : tree.locate workspace.targetRoot = .ok base)
    (directory : tree.get? base = some .directory)
    (nothing : Target.declared tree workspace.settings.target workspace.targetRoot base = []) :
    workspace.inventory tree = .ok {} := by
  rw [inventory_eq_ok_iff (isPresent_of_isDirectory (isDirectory_iff.mpr ⟨base, located, directory⟩)),
    Target.scanInventory_eq_ok_iff]
  exact ⟨base, located, directory, by rw [nothing]; rfl⟩

/-- A project with well-formed settings where a run creates the skeleton of a source, and the
source has no match in the tree that the run leaves. -/
structure CreatedUnmatched (workspace : Workspace) (tree : FileTree) (source : SourceDeclaration) :
    Prop where
  proper : tree.Proper
  wellFormed : workspace.settings.WellFormed
  unfiltered : workspace.settings.target.excludedPaths = []
  extracted : Source.Extracted source
  scanned : workspace.inventory tree = .ok {}
  unmatched : ∃ after report later,
    workspace.settings.scaffold.run tree [source] {} workspace.targetRoot = (after, .ok report) ∧
      workspace.settings.scaffold.Created [source] {} workspace.targetRoot report source ∧
      workspace.inventory after = .ok later ∧
      (Match.assess after workspace.settings.scoring workspace.settings.classification later
        source).best = none

theorem unmatched_of_writeAll {source : SourceDeclaration}
    (ended : (Stub.writeAll tree {}
      [workspace.settings.scaffold.planned workspace.targetRoot source]).2 =
        .ok { created := [(workspace.settings.scaffold.planned workspace.targetRoot source).path] })
    (rescanned : workspace.inventory (Stub.writeAll tree {}
      [workspace.settings.scaffold.planned workspace.targetRoot source]).1 = .ok {}) :
    ∃ after report later,
      workspace.settings.scaffold.run tree [source] {} workspace.targetRoot = (after, .ok report) ∧
        workspace.settings.scaffold.Created [source] {} workspace.targetRoot report source ∧
        workspace.inventory after = .ok later ∧
        (Match.assess after workspace.settings.scoring workspace.settings.classification later
          source).best = none := by
  have ran : workspace.settings.scaffold.run tree [source] {} workspace.targetRoot =
      Stub.writeAll tree {} [workspace.settings.scaffold.planned workspace.targetRoot source] :=
    Stub.Scaffold.run_empty ..
  rw [← ran] at ended rescanned
  refine ⟨_, _, {}, Prod.ext rfl ended, ⟨List.mem_cons_self, ?_⟩, rescanned, ?_⟩
  · simp [Stub.Scaffold.plan, Stub.Scaffold.isPresent_empty]
  · rw [Match.best_assess_eq_none_iff]
    exact Target.Inventory.candidates_ofList [] _

/-- Created skeletons are not found again with a slash in the extension, over a link between the
target tree and the skeleton, and without a path for the target tree. -/
theorem created_without_match :
    let bitField : SourceDeclaration := ⟨"org.a", .classType, "BitField", "", ⟨"B.java"⟩, none⟩
    let bare : FileTree := { entries := [(["w"], .directory), (["w", "src"], .directory)] }
    let linked : FileTree :=
      { entries := [(["w"], .directory), (["w", "src"], .directory), (["w", "other"], .directory),
          (["w", "src", "utils"], .link ⟨"../other"⟩)] }
    CreatedUnmatched ⟨⟨"/w"⟩, ⟨"/w/java"⟩, ⟨"/w/src"⟩, { target := { extension := "c/j" } }⟩ bare
        bitField ∧
      CreatedUnmatched ⟨⟨"/w"⟩, ⟨"/w/java"⟩, ⟨"/w/src"⟩, {}⟩ linked bitField ∧
      CreatedUnmatched ⟨⟨"/w"⟩, ⟨"/w/java"⟩, ⟨""⟩, {}⟩ bare bitField := by
  intro bitField bare linked
  have bareProper : bare.Proper :=
    .of_entries (by decide +kernel) (by decide +kernel) (by decide +kernel) rfl
  have linkedProper : linked.Proper :=
    .of_entries (by decide +kernel) (by decide +kernel) (by decide +kernel) rfl
  have extracted : Source.Extracted bitField :=
    ⟨"org.a", ⟨"B.java"⟩, "package org.a;\npublic class BitField", by decide +kernel⟩
  have default := Settings.wellFormed_default
  have slashed : ({ target := { extension := "c/j" } } : Settings).WellFormed :=
    ⟨default.rootNamespace, default.defaultNamespace, default.rules, by decide, default.oneLined⟩
  refine ⟨⟨bareProper, slashed, rfl, extracted, ?_, ?_⟩,
    ⟨linkedProper, default, rfl, extracted, ?_, ?_⟩,
    ⟨bareProper, default, rfl, extracted, inventory_of_absent (by decide +kernel), ?_⟩⟩
  · have located : bare.locate ⟨"/w/src"⟩ = .ok ["w", "src"] := by decide +kernel
    exact inventory_of_nothing located (by decide) (by decide +kernel)
  · apply unmatched_of_writeAll
    · decide +kernel
    · apply @inventory_of_nothing _ _ ["w", "src"]
      · decide +kernel
      · decide +kernel
      · decide +kernel
  · have located : linked.locate ⟨"/w/src"⟩ = .ok ["w", "src"] := by decide +kernel
    exact inventory_of_nothing located (by decide) (by decide +kernel)
  · apply unmatched_of_writeAll
    · decide +kernel
    · apply @inventory_of_nothing _ _ ["w", "src"]
      · decide +kernel
      · decide +kernel
      · decide +kernel
  · apply unmatched_of_writeAll
    · decide +kernel
    · exact inventory_of_absent (by decide +kernel)

end Workspace

end ApiMigration
