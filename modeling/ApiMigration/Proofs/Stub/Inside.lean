import ApiMigration.Proofs.FileTree.Additions
import ApiMigration.Proofs.Path.Relative
import ApiMigration.Proofs.Stub.Place
import ApiMigration.Proofs.Stub.Write

namespace ApiMigration

open FileTree Text

namespace Path

variable {names : List String}

theorem parts_joinAll_nothing (further : names ≠ []) (plain : ∀ name ∈ names, IsPlain name) :
    (joinAll ⟨""⟩ names).isAbsolute = false ∧
      (joinAll ⟨""⟩ names).parts = names.map String.toList := by
  have written : joinAll ⟨""⟩ names = ofParts false (names.map String.toList) := by
    rw [joinAll_nothing (fun name member => (plain name member).solid)
      (fun name member => (plain name member).slashFree), ofParts,
      ← String.ofList_toList (s := joinWith "/" names), toList_joinWith]
    rfl
  have clean : ∀ part ∈ names.map String.toList, '/' ∉ part := by
    intro part listed
    obtain ⟨name, member, rfl⟩ := List.mem_map.mp listed
    exact (plain name member).slashFree
  have begins : false = false → (names.map String.toList).head? ≠ some [] := by
    intro _ first
    obtain ⟨name, member, empty⟩ := List.mem_map.mp (List.mem_of_head? first)
    exact (plain name member).solid (String.toList_eq_nil_iff.mp empty)
  rw [written]
  refine ⟨isAbsolute_ofParts clean begins, ?_⟩
  rw [parts_ofParts clean begins, if_neg (by simpa using further)]

theorem components_below (root : Path) (plain : ∀ name ∈ names, IsPlain name) :
    (root.joinAll names).components = root.components ++ names.map Component.name := by
  by_cases written : root.text ≠ ""
  · exact components_joinAll written plain
  by_cases further : names = []
  · simp [further, joinAll]
  obtain rfl : root = ⟨""⟩ := by
    obtain ⟨text⟩ := root
    simpa using written
  obtain ⟨relative, parts⟩ := parts_joinAll_nothing further plain
  have elsewhere : (joinAll ⟨""⟩ names).startsHere = false := by
    obtain ⟨name, more, rfl⟩ := List.exists_cons_of_ne_nil further
    have dot : name.toList ≠ ['.'] := fun dot =>
      (plain name List.mem_cons_self).elsewhere (String.toList_inj.mp (dot.trans (by decide)))
    simp [startsHere, parts, dot]
  have solid : ((names.map String.toList).filter fun part => !isVoid part) =
      names.map String.toList := by
    rw [List.filter_eq_self]
    intro part listed
    obtain ⟨name, member, rfl⟩ := List.mem_map.mp listed
    simp [(plain name member).isVoid]
  have nothing : (⟨""⟩ : Path).components = [] := by decide
  rw [components, anchor, relative, elsewhere, ← filter_parts, parts, solid, map_ofPart plain,
    nothing]
  rfl

end Path

namespace FileTree

structure LeadsTo (tree : FileTree) (root : Path) (base : Location) : Prop where
  directory : tree.get? base = some .directory
  located : tree.locate root = .ok base ∨ root.text = "" ∧ base = tree.workingDirectory

variable {tree : FileTree} {root : Path} {names : List String} {approach : Approach}
  {place : Location}

theorem Proper.exists_leadsTo (proper : tree.Proper) (further : names ≠ [])
    (plain : ∀ name ∈ names, Path.IsPlain name)
    (located : tree.locate (root.joinAll names) approach = .ok place) :
    ∃ base links, LeadsTo tree root base ∧ Trail tree approach links base names place := by
  by_cases written : root.text = ""
  · obtain ⟨text⟩ := root
    subst written
    obtain ⟨relative, parts⟩ := Path.parts_joinAll_nothing further plain
    have read : (names.map String.toList).map String.ofList = names := by
      simp [Function.comp_def]
    rw [locate_eq_walk (admissible_of_locate located), walk_eq_ok_iff_trail, FileTree.start,
      relative, parts, read] at located
    exact ⟨tree.workingDirectory, linkLimit, ⟨proper.working, .inr ⟨rfl, rfl⟩⟩, located⟩
  · obtain ⟨base, links, reached, directory, trail⟩ := exists_locate_root proper written further
      (fun name member => (plain name member).solid)
      (fun name member => (plain name member).slashFree) located
    exact ⟨base, links, ⟨directory, .inl reached⟩, trail⟩

theorem LeadsTo.extend {new : FileTree} {base : Location} (leads : LeadsTo tree root base)
    (extended : Extends tree new) (within : LinksWithin new tree) : LeadsTo new root base where
  directory := extended.get? leads.directory
  located := by
    refine leads.located.imp (locate_extend extended within) ?_
    rw [extended.workingDirectory_eq]
    exact id

end FileTree

namespace Stub

def segments (text : String) : List String :=
  ((text.toList.splitOn '.').filter fun segment => !segment.isEmpty).map String.ofList

/-- A file that is made for a path with plain names below another path stands where these names
lead, unless a link is on the way. -/
theorem place_of_new_file {tree made : FileTree} {root : Path} {directories : List String}
    {last : String} {there : Location} {bytes : List UInt8} (proper : tree.Proper)
    (plain : ∀ name ∈ directories ++ [last], Path.IsPlain name)
    (steps : MakesDirectories tree made)
    (located : made.locate (root.joinAll (directories ++ [last]))
      { followLast := false, wantsFile := true } = .ok there)
    (absent : made.get? there = none) :
    ∃ base, LeadsTo (made.set there (.file bytes)) root base ∧
      ((∀ front, front <+: directories →
          ∀ target, tree.get? (base ++ front) ≠ some (.link target)) →
        there = base ++ (directories ++ [last])) := by
  obtain ⟨_, grown, _⟩ := steps.grown
  obtain ⟨base, links, leads, trail⟩ :=
    (grown.proper proper).exists_leadsTo (by simp) plain located
  refine ⟨base, leads.extend (.set _ absent) (linksWithin_set absent (by simp)), ?_⟩
  intro direct
  apply trail.place_of_plain plain rfl
  intro front begun target link
  exact direct front begun target (grown.links _ _ link)

/-- Whatever file is new stands where the names lead from the root of the path, unless a link is on
the way. This is so even when its contents were refused. -/
theorem new_file_below {storage : Storage} {tree : FileTree} {root : Path}
    {directories : List String} {last : String} {contents : String} {place : Location}
    {bytes : List UInt8} (proper : tree.Proper)
    (plain : ∀ name ∈ directories ++ [last], Path.IsPlain name)
    (held : (writeIfAbsent tree (root.joinAll (directories ++ [last])) contents storage).1.get?
      place = some (.file bytes)) :
    tree.get? place = some (.file bytes) ∨
      ∃ base, LeadsTo (writeIfAbsent tree (root.joinAll (directories ++ [last])) contents
          storage).1 root base ∧
        ((∀ front, front <+: directories →
            ∀ target, tree.get? (base ++ front) ≠ some (.link target)) →
          place = base ++ (directories ++ [last])) := by
  generalize ran : writeIfAbsent tree (root.joinAll (directories ++ [last])) contents storage =
    result at held ⊢
  obtain ⟨after, outcome⟩ := result
  cases wrote_writeIfAbsent ran with
  | failed steps => exact .inl (steps.file held)
  | kept steps _ _ _ => exact .inl (steps.file held)
  | created steps _ located absent =>
    rcases file_of_set absent held with ⟨rfl, _⟩ | still
    · exact .inr (place_of_new_file proper plain steps located absent)
    · exact .inl (steps.file still)
  | refused steps located absent _ =>
    rcases file_of_set absent held with ⟨rfl, _⟩ | still
    · exact .inr (place_of_new_file proper plain steps located absent)
    · exact .inl (steps.file still)

namespace Scaffold

variable {scaffold : Scaffold} {declaration : SourceDeclaration}

theorem path_eq_joinAll (extracted : Source.Extracted declaration)
    (slashFree : scaffold.routing.SlashFree) (clean : '/' ∉ scaffold.extension.toList)
    (root : Path) :
    scaffold.path root declaration (scaffold.routing.targetPackage declaration) =
      root.joinAll (scaffold.names declaration) := by
  by_cases written : root.text ≠ ""
  · exact path_planned extracted slashFree clean written
  obtain rfl : root = ⟨""⟩ := by
    obtain ⟨text⟩ := root
    simpa using written
  have relative := Routing.isAbsolute_directory (slashFree.targetGroup extracted)
  have alone : Path.join ⟨""⟩ (scaffold.routing.directory
      (scaffold.routing.targetPackage declaration)) =
        scaffold.routing.directory (scaffold.routing.targetPackage declaration) := by
    simp [Path.join, relative]
  rw [path, alone, names, Path.joinAll_concat, Routing.directory, Routing.targetPackage,
    Routing.afterRoot_append]
  rfl

theorem directories_eq (scaffold : Scaffold) (declaration : SourceDeclaration) :
    scaffold.directories declaration =
      segments (if declaration.group = "" then scaffold.routing.rootGroupNamespace declaration
        else declaration.group) := by
  rw [directories, Routing.targetGroup, SourceDeclaration.inRootGroup]
  simp only [beq_iff_eq, segments]

theorem isNameChar_of_mem_segments (extracted : Source.Extracted declaration) {name : String}
    (listed : name ∈ segments declaration.group) : ∀ c ∈ name.toList, isNameChar c = true := by
  obtain ⟨segment, kept, rfl⟩ := List.mem_map.mp listed
  have cut := List.mem_of_mem_filter kept
  intro c member
  rw [String.toList_ofList] at member
  have allowed := extracted.isPackageChar c (Routing.mem_of_mem_splitOn cut member)
  rw [isPackageChar, Bool.or_eq_true, beq_iff_eq] at allowed
  refine allowed.resolve_right ?_
  rintro rfl
  exact not_mem_of_mem_splitOn cut member

/-- The path of a skeleton goes on from that of the target tree by the segments of the group or of
the namespace it is sent to, and ends with one file name. Writing the skeleton makes no file
elsewhere, unless a link below the target tree leads away. -/
theorem skeleton_stays_inside (rootPackage : String) (origin : Path) (text : String)
    (declaration : SourceDeclaration)
    (read : Source.declaration? rootPackage origin text = some declaration) (scaffold : Scaffold)
    (slashFree : scaffold.routing.SlashFree) (clean : '/' ∉ scaffold.extension.toList)
    (root : Path) :
    let path := scaffold.path root declaration (scaffold.routing.targetPackage declaration)
    ∃ directories stem,
      path.components = root.components ++
        (directories ++ [stem ++ "." ++ scaffold.extension]).map Path.Component.name ∧
      (∀ name ∈ directories ++ [stem ++ "." ++ scaffold.extension], Path.IsPlain name) ∧
      directories = segments
        (if declaration.group = "" then scaffold.routing.rootGroupNamespace declaration
          else declaration.group) ∧
      (declaration.group ≠ "" → ∀ name ∈ directories, ∀ c ∈ name.toList, isNameChar c = true) ∧
      stem ≠ "" ∧ (∀ c ∈ stem.toList, isStemChar c = true) ∧
      ∀ storage tree contents place bytes, tree.Proper →
        (writeIfAbsent tree path contents storage).1.get? place = some (.file bytes) →
        tree.get? place = some (.file bytes) ∨
          ∃ base, LeadsTo (writeIfAbsent tree path contents storage).1 root base ∧
            ((∀ front, front <+: directories →
                ∀ target, tree.get? (base ++ front) ≠ some (.link target)) →
              place = base ++ (directories ++ [stem ++ "." ++ scaffold.extension])) := by
  have extracted : Source.Extracted declaration := ⟨rootPackage, origin, text, read⟩
  have plain : ∀ name ∈ scaffold.names declaration, Path.IsPlain name := fun name listed =>
    names_spelled extracted slashFree clean listed
  obtain ⟨solid, small⟩ := fileStem_spelled extracted
  intro path
  have below : path = root.joinAll (scaffold.names declaration) :=
    path_eq_joinAll extracted slashFree clean root
  refine ⟨scaffold.directories declaration, fileStem declaration.name, ?_, plain,
    scaffold.directories_eq declaration, ?_, solid, small, ?_⟩
  · rw [below]
    exact Path.components_below root plain
  · intro grouped name listed
    rw [directories_eq, if_neg grouped] at listed
    exact isNameChar_of_mem_segments extracted listed
  · rw [below]
    intro storage tree contents place bytes proper held
    exact new_file_below proper plain held

/-- A package full of dots, a target tree above the working directory and an extension of dots. -/
theorem skeleton_stays_inside_stray_dots :
    let declaration : SourceDeclaration :=
      ⟨"..etc...passwd.", .classType, "HTTPServer2", "..etc...passwd.", ⟨"/a/../X.java"⟩, none⟩
    let scaffold : Scaffold :=
      { renderer := { rootNamespace := "", marker := "" }
        routing := { rootNamespace := "x.y", rules := [] }
        extension := ".." }
    Source.declaration? "org.a" ⟨"/a/../X.java"⟩
        "package ..etc...passwd.;\npublic class HTTPServer2 \x7b" = some declaration ∧
      scaffold.routing.SlashFree ∧ '/' ∉ scaffold.extension.toList ∧
      ∃ stem, stem ≠ "" ∧ (∀ c ∈ stem.toList, isStemChar c = true) ∧
        (scaffold.path ⟨"../out/"⟩ declaration
            (scaffold.routing.targetPackage declaration)).components =
          [.up, .name "out", .name "etc", .name "passwd", .name (stem ++ "." ++ "..")] := by
  intro declaration scaffold
  have read : Source.declaration? "org.a" ⟨"/a/../X.java"⟩
      "package ..etc...passwd.;\npublic class HTTPServer2 \x7b" = some declaration := by
    decide +kernel
  have slashFree : scaffold.routing.SlashFree := ⟨by decide, by simp [scaffold]⟩
  have clean : '/' ∉ scaffold.extension.toList := by decide
  obtain ⟨directories, stem, components, -, rfl, -, solid, small, -⟩ :=
    skeleton_stays_inside "org.a" _ _ declaration read scaffold slashFree clean ⟨"../out/"⟩
  have spelled : segments (if declaration.group = "" then
      scaffold.routing.rootGroupNamespace declaration else declaration.group) =
        ["etc", "passwd"] := by
    decide +kernel
  have above : (⟨"../out/"⟩ : Path).components = [.up, .name "out"] := by decide +kernel
  rw [spelled, above] at components
  exact ⟨read, slashFree, clean, stem, solid, small, components⟩

end Scaffold

end Stub

end ApiMigration
