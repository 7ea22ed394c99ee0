import ApiMigration.Proofs.Stub.Preview
import ApiMigration.Proofs.Stub.ReadBack
import ApiMigration.Proofs.Target.Repackage

namespace ApiMigration

open FileTree Text

/-- The group that a declaration is routed to has no empty segment. -/
def Routing.Segmented (routing : Routing) (declaration : SourceDeclaration) : Prop :=
  [] ∉ (routing.targetGroup declaration).toList.splitOn '.'

instance (routing : Routing) (declaration : SourceDeclaration) :
    Decidable (routing.Segmented declaration) :=
  inferInstanceAs (Decidable (_ ∉ _))

theorem Target.directoryNames_joinAll {names : List String} (solid : ∀ name ∈ names, name ≠ "")
    (dotFree : ∀ name ∈ names, '.' ∉ name.toList)
    (slashFree : ∀ name ∈ names, '/' ∉ name.toList) :
    directoryNames (Path.joinAll ⟨""⟩ names) = names := by
  have path : Path.joinAll ⟨""⟩ names = Path.ofParts false (names.map String.toList) := by
    rw [Path.joinAll_nothing solid slashFree, ← String.ofList_toList (s := joinWith "/" names),
      toList_joinWith]
    rfl
  have meant : ∀ part ∈ names.map String.toList, Path.isVoid part = false := by
    rw [List.forall_mem_map]
    intro name listed
    have other : name.toList ≠ ['.'] := fun dot => dotFree name listed (by simp [dot])
    simp [Path.isVoid, solid name listed, other]
  have onward : ∀ name ∈ names, name ≠ ".." := by
    rintro name listed rfl
    exact dotFree ".." listed (by decide)
  have kept : ((names.map String.toList).filter fun part => !Path.isVoid part) =
      names.map String.toList := by
    rw [List.filter_eq_self]
    intro part listed
    rw [meant part listed]
    rfl
  rw [path, Path.directoryNames_ofParts, kept, Path.filterMap_names onward]
  · rw [List.forall_mem_map]
    exact slashFree
  · intro part first
    exact meant part (List.mem_of_head? first)

namespace Stub

open Target

theorem redirect?_packageLine {package : String} (solid : package.toList ≠ [])
    (named : ∀ c ∈ package.toList, isPackageChar c = true) (more : List String) :
    redirect? package (String.ofList (feedLines (("package " ++ package) :: more))) = none := by
  have gaps : ∀ c ∈ [' '], PackageLine.isGap c = true := by decide
  let line : PackageLine := ⟨[], [' '], package.toList, ['\n']⟩
  have spelled : line.Spelled :=
    ⟨by simp [line], by simp [line], gaps, solid, named, stops_cons (by decide) _⟩
  have head : line.head = ("package " ++ package).toList := by
    rw [PackageLine.head, String.toList_append]
    rfl
  have single : '\n' ∉ ("package " ++ package).toList := by
    rw [← head]
    exact spelled.feed_not_mem
  have first : FirstPackageLine
      (String.ofList (feedLines (("package " ++ package) :: more))).toList [] line
      ('\n' :: feedLines more) := by
    refine ⟨[], _, fullLines (feedLines more), ?_, by simp,
      PackageLine.ofLine?_eq_some_iff.mpr ⟨spelled, rfl⟩, rfl, ?_⟩
    · rw [String.toList_ofList, feedLines_cons, fullLines_line single, head]
      rfl
    · rw [flatten_fullLines]
      rfl
  rw [first.redirect?_eq_none_iff]
  rfl

namespace Scaffold

variable {scaffold : Scaffold} {declaration : SourceDeclaration}

theorem directoryNames_directory
    (slashFree : '/' ∉ (scaffold.routing.targetGroup declaration).toList) :
    directoryNames (scaffold.routing.directory (scaffold.routing.targetPackage declaration)) =
      scaffold.directories declaration := by
  rw [Routing.directory, Routing.targetPackage, Routing.afterRoot_append]
  exact directoryNames_joinAll (fun name listed => (directories_spelled listed).1)
    (fun name listed => (directories_spelled listed).2)
    (fun name listed => slash_not_mem_directories slashFree listed)

theorem joinWith_directories (segmented : scaffold.routing.Segmented declaration) :
    joinWith "." (scaffold.routing.rootNamespace :: scaffold.directories declaration) =
      scaffold.routing.targetPackage declaration := by
  have whole : scaffold.directories declaration =
      ((scaffold.routing.targetGroup declaration).toList.splitOn '.').map String.ofList := by
    rw [directories, List.filter_eq_self.mpr]
    intro segment listed
    have solid : segment ≠ [] := fun empty => segmented (empty ▸ listed)
    simpa using solid
  have joined : joinWith "." (scaffold.directories declaration) =
      scaffold.routing.targetGroup declaration := by
    rw [← String.toList_inj, toList_joinWith, whole, List.map_map]
    have same : String.toList ∘ String.ofList = id := by
      funext chars
      exact String.toList_ofList
    rw [same, List.map_id]
    exact List.intercalate_splitOn '.'
  obtain ⟨first, more, split⟩ : ∃ first more, scaffold.directories declaration = first :: more := by
    apply List.exists_cons_of_ne_nil
    rw [whole, Ne, List.map_eq_nil_iff]
    exact List.splitOn_ne_nil _ _
  rw [split] at joined ⊢
  show scaffold.routing.rootNamespace ++ "." ++ joinWith "." (first :: more) = _
  rw [joined, Routing.targetPackage]

theorem packageFor_directory
    (slashFree : '/' ∉ (scaffold.routing.targetGroup declaration).toList)
    (segmented : scaffold.routing.Segmented declaration) :
    packageFor scaffold.routing.rootNamespace
        (scaffold.routing.directory (scaffold.routing.targetPackage declaration)) =
      scaffold.routing.targetPackage declaration := by
  rw [packageFor, directoryNames_directory slashFree, joinWith_directories segmented]

theorem redirect?_render (dotted : scaffold.routing.Dotted)
    (extracted : Source.Extracted declaration) :
    redirect? (scaffold.routing.targetPackage declaration)
      (scaffold.renderer.render declaration (scaffold.routing.targetPackage declaration)) =
        none := by
  have solid : (scaffold.routing.targetPackage declaration).toList ≠ [] := by
    simp [Routing.targetPackage]
  rw [Renderer.render_eq_feedLines]
  exact redirect?_packageLine solid (dotted.isPackageChar_targetPackage extracted) _

/-- Every target file below a place is the skeleton of a declaration, at the names that lead to
it. -/
def HoldsOnlySkeletons (scaffold : Scaffold) (tree : FileTree) (base : Location) : Prop :=
  ∀ names ∈ tree.foundBelow { extension := scaffold.extension } base, ∃ declaration,
    Source.Extracted declaration ∧ scaffold.routing.Segmented declaration ∧
      names = scaffold.names declaration ∧
      tree.get? (base ++ names) = some (.file (textBytes
        (scaffold.renderer.render declaration (scaffold.routing.targetPackage declaration))))

section Trees

variable {tree after : FileTree} {root : Path} {base : Location}

theorem changed?_skeleton (dotted : scaffold.routing.Dotted) (proper : tree.Proper)
    (located : tree.locate root = .ok base) (extracted : Source.Extracted declaration)
    (segmented : scaffold.routing.Segmented declaration)
    (held : tree.get? (base ++ scaffold.names declaration) = some (.file (textBytes
      (scaffold.renderer.render declaration (scaffold.routing.targetPackage declaration))))) :
    changed? tree root scaffold.routing.rootNamespace
      (root.joinAll (scaffold.names declaration)) = none := by
  have further := scaffold.names_ne_nil declaration
  have package : packageAt root scaffold.routing.rootNamespace
      (root.joinAll (scaffold.names declaration)) = scaffold.routing.targetPackage declaration := by
    rw [packageAt_joinAll (admissible_of_locate located).written further
      (fun name listed => proper.isFileName held name (List.mem_append_right _ listed)), names,
      List.dropLast_concat, joinWith_directories segmented]
  rw [changed?, proper.readLossy?_file located further held, package, textBytes,
    decodeLossy_encode, String.ofList_toList]
  split
  · exact redirect?_render dotted extracted
  · rfl

theorem HoldsOnlySkeletons.run {sources : List SourceDeclaration} {inventory : Target.Inventory}
    {result : Except Failure WriteReport} (proper : tree.Proper) (linkFree : tree.LinkFree)
    (dotted : scaffold.routing.Dotted) (clean : '/' ∉ scaffold.extension.toList)
    (written : root.text ≠ "") (downward : .up ∉ root.components)
    (extracted : ∀ source ∈ sources, Source.Extracted source)
    (segmented : ∀ source ∈ sources, scaffold.routing.Segmented source)
    (only : scaffold.HoldsOnlySkeletons tree (tree.placeOf root))
    (ran : scaffold.run tree sources inventory root = (after, result)) :
    scaffold.HoldsOnlySkeletons after (tree.placeOf root) := by
  have planned : ∀ stub ∈ scaffold.plan sources inventory root,
      ∃ source ∈ sources, stub = scaffold.planned root source := by
    intro stub listed
    obtain ⟨source, kept, rfl⟩ := List.mem_map.mp listed
    exact ⟨source, List.mem_of_mem_filter kept, rfl⟩
  have placed : ∀ source ∈ sources, _ := fun source member =>
    placeOf_planned tree dotted.slashFree clean written downward (extracted source member)
  have onward : ∀ stub ∈ scaffold.plan sources inventory root, .up ∉ stub.path.components := by
    intro stub listed
    obtain ⟨source, member, rfl⟩ := planned stub listed
    exact (placed source member).1
  have start := Tallied.start tree
  have tallied : Tallied tree [] tree { present := scaffold.presentCount sources inventory } :=
    ⟨start.order, start.distinct, start.fresh, start.total⟩
  have ended := (writeAll_accounted (.start linkFree) tallied onward ran).1
  obtain ⟨done, rest, whole, accounted⟩ := ended.exists_accounted
  obtain ⟨_, grown, _⟩ := grown_writeAll ran
  -- A file that is found afterwards was there before or holds the first skeleton of its place.
  intro names found
  obtain ⟨accepted, further, bytes, held⟩ := (mem_foundBelow (grown.proper proper)).mp found
  rcases accounted.origin _ bytes held with stood | ⟨_, stub, first, same⟩
  · obtain ⟨source, known, whole, spelled, old⟩ :=
      only names ((mem_foundBelow proper).mpr ⟨accepted, further, bytes, stood⟩)
    exact ⟨source, known, whole, spelled, grown.extend.get? old⟩
  · have listed : stub ∈ scaffold.plan sources inventory root := by
      rw [← List.nil_append (scaffold.plan sources inventory root), whole]
      exact List.mem_append_left _ (List.mem_of_find?_eq_some first)
    obtain ⟨source, member, rfl⟩ := planned stub listed
    rw [firstAt?] at first
    have reached := List.find?_some first
    rw [decide_eq_true_eq, (placed source member).2] at reached
    refine ⟨source, extracted source member, segmented source member,
      (List.append_cancel_left reached).symm, ?_⟩
    rw [held, same]
    rfl

end Trees

/-- Scaffolding and repackaging have one layout: the directory of a package gives the package back,
a skeleton declares its package already, and repackaging a tree of skeletons updates nothing. -/
theorem repackage_leaves_skeletons (dotted : scaffold.routing.Dotted) :
    (∀ declaration, Source.Extracted declaration → scaffold.routing.Segmented declaration →
      let package := scaffold.routing.targetPackage declaration
      packageFor scaffold.routing.rootNamespace (scaffold.routing.directory package) = package ∧
        redirect? package (scaffold.renderer.render declaration package) = none) ∧
    ∀ tree root base, tree.Proper → tree.locate root = .ok base →
      tree.get? base = some .directory → scaffold.HoldsOnlySkeletons tree base →
      ∀ dryRun, ∃ report,
        repackage tree root scaffold.routing.rootNamespace scaffold.extension dryRun =
          (tree, .ok report) ∧ report.updated = [] := by
  constructor
  · intro declaration extracted segmented
    exact ⟨packageFor_directory (dotted.slashFree.targetGroup extracted) segmented,
      redirect?_render dotted extracted⟩
  · intro tree root base proper located directory only dryRun
    have scanned := scan_eq_ok_iff.mpr ⟨base, located, directory,
      (rfl : _ = (tree.foundBelow { extension := scaffold.extension } base).map root.joinAll)⟩
    apply repackage_of_unchanged scanned
    intro path listed
    obtain ⟨names, found, rfl⟩ := List.mem_map.mp listed
    obtain ⟨declaration, extracted, segmented, rfl, held⟩ := only names found
    exact changed?_skeleton dotted proper located extracted segmented held

theorem repackage_leaves_skeleton_of_mode :
    let scaffold : Scaffold :=
      { renderer := { rootNamespace := "commons_lang4cj", marker := "is not implemented" } }
    let tree : FileTree := { entries := [(["w"], .directory)] }
    let bitField : SourceDeclaration := ⟨"org.a", .classType, "BitField", "", ⟨"B.java"⟩, none⟩
    let mode : SourceDeclaration :=
      ⟨"org.a.text.v_2", .enumType, "Mode", "text.v_2", ⟨"M.java"⟩, none⟩
    let package := scaffold.routing.targetPackage mode
    let ran := scaffold.run tree [bitField, mode] {} ⟨"/w/src"⟩
    ran.2 = .ok { created := [⟨"/w/src/utils/bit_field.cj"⟩, ⟨"/w/src/text/v_2/mode.cj"⟩] } ∧
      packageFor "commons_lang4cj" (scaffold.routing.directory package) = package ∧
      redirect? package (scaffold.renderer.render mode package) = none ∧
      ∃ report, repackage ran.1 ⟨"/w/src"⟩ "commons_lang4cj" "cj" false = (ran.1, .ok report) ∧
        report.updated = [] := by
  intro scaffold tree bitField mode package ran
  have dotted : scaffold.routing.Dotted := ⟨by decide, by decide, by decide +kernel⟩
  have extracted : ∀ source ∈ [bitField, mode], Source.Extracted source := by
    simp only [List.forall_mem_cons, List.not_mem_nil, false_imp_iff, implies_true, and_true]
    exact ⟨⟨"org.a", ⟨"B.java"⟩, "package org.a;\npublic class BitField", by decide +kernel⟩,
      ⟨"org.a", ⟨"M.java"⟩, "package org.a.text.v_2;\npublic enum Mode", by decide +kernel⟩⟩
  have segmented : ∀ source ∈ [bitField, mode], scaffold.routing.Segmented source := by
    decide +kernel
  have proper : tree.Proper :=
    .of_entries (by decide +kernel) (by decide +kernel) (by decide +kernel) rfl
  have written : ran = writeAll tree {} ([bitField, mode].map (scaffold.planned ⟨"/w/src"⟩)) :=
    run_empty ..
  have nothing : tree.foundBelow { extension := "cj" } (tree.placeOf ⟨"/w/src"⟩) = [] := by
    decide +kernel
  have only : scaffold.HoldsOnlySkeletons ran.1 (tree.placeOf ⟨"/w/src"⟩) := by
    refine HoldsOnlySkeletons.run proper (linkFree_of_entries (by simp [tree])) dotted (by decide)
      (by decide) (by decide +kernel) extracted segmented ?_ (Prod.eta _).symm
    intro names found
    rw [show tree.foundBelow { extension := scaffold.extension } _ = [] from nothing] at found
    cases found
  obtain ⟨_, grown, _⟩ := grown_writeAll written.symm
  obtain ⟨layout, leaves⟩ := repackage_leaves_skeletons dotted
  obtain ⟨given, declared⟩ := layout mode (extracted mode (by simp)) (segmented mode (by simp))
  have ended : ran.2 =
        .ok { created := [⟨"/w/src/utils/bit_field.cj"⟩, ⟨"/w/src/text/v_2/mode.cj"⟩] } ∧
      ran.1.locate ⟨"/w/src"⟩ = .ok ["w", "src"] ∧
      ran.1.get? ["w", "src"] = some .directory := by
    rw [written]
    decide +kernel
  have place : tree.placeOf ⟨"/w/src"⟩ = ["w", "src"] := by decide +kernel
  rw [place] at only
  exact ⟨ended.1, given, declared,
    leaves ran.1 ⟨"/w/src"⟩ ["w", "src"] (grown.proper proper) ended.2.1 ended.2.2 only false⟩

end Scaffold

end Stub

end ApiMigration
