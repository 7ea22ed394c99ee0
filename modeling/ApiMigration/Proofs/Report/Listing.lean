import ApiMigration.Proofs.Report.Overview
import ApiMigration.Report.Matrix
import Mathlib.Data.List.Forall2
import Mathlib.Data.List.Nodup

namespace ApiMigration.Report

open Assessment Text

def entryText (assessment : Assessment) : String :=
  match assessment.best with
  | none => "- " ++ assessment.status.glyph ++ " " ++ assessment.name
  | some target =>
    "- " ++ assessment.status.glyph ++ " " ++ assessment.name ++ " → `" ++ target.package ++ "."
      ++ target.name ++ "`"

structure GroupPart where
  group : String
  entries : List Assessment

namespace GroupPart

def heading (rootPackage : String) (part : GroupPart) : String :=
  if part.group = "" then "## Root package `" ++ rootPackage ++ "`" else "## `" ++ part.group ++ "`"

def lines (rootPackage : String) (part : GroupPart) : List String :=
  "" :: part.heading rootPackage :: "" :: part.entries.map entryText

end GroupPart

/-- The entries of one part are those of the other, which has entries of the same names in the same
places. -/
structure GroupPart.Reordered (part other : GroupPart) : Prop where
  group : part.group = other.group
  entries : part.entries.Perm other.entries
  names : part.entries.map name = other.entries.map name

def preamble (title rootPackage : String) (count : Nat) : List String :=
  ["# " ++ title, "",
    "Generated from the public top-level declarations under `" ++ rootPackage ++ "` ("
      ++ toString count ++ " total), matched against the target source tree.",
    "", "Legend:", "",
    "- ✅ implemented: a real implementation exists in the target tree",
    "- 🟡 planned: missing, or still a placeholder skeleton",
    "- ⚠️ subset: ported with a reduced feature set",
    "- ⛔ unsupported: no sensible equivalent on the target platform"]

def sheet (title rootPackage : String) (count : Nat) (parts : List GroupPart) : List String :=
  preamble title rootPackage count ++ parts.flatMap (GroupPart.lines rootPackage)

/-- Parts that list some assessments: all of them, sorted by group and name, each under the one
heading of its group, the root group first. -/
structure Lists (parts : List GroupPart) (rootPackage : String) (assessments : List Assessment) :
    Prop where
  sorted : parts.flatMap GroupPart.entries = listed assessments
  everyGroup : ∀ group, group ∈ parts.map GroupPart.group ↔
    ∃ assessment ∈ assessments, assessment.group = group
  oneHeading : (parts.map (GroupPart.heading rootPackage)).Nodup
  under : ∀ part ∈ parts, ∀ entry ∈ part.entries, entry.group = part.group
  rootFirst : ∀ part ∈ parts, part.group = "" → parts.head? = some part

theorem entryLine_eq (assessment : Assessment) : entryLine assessment = entryText assessment := by
  rw [entryLine, entryText]
  cases assessment.best with
  | none => simp
  | some target => simp [TargetDeclaration.qualifiedName, String.append_assoc]

def partOf (assessments : List Assessment) (group : String) : GroupPart where
  group := group
  entries := inGroup assessments group

def partsOf (assessments : List Assessment) : List GroupPart :=
  (groups assessments).map (partOf assessments)

theorem concat_flatMap_concat {α β : Type} (mark : β) (block : α → List β) (items : List α) :
    mark :: items.flatMap (fun item => block item ++ [mark]) =
      items.flatMap (fun item => mark :: block item) ++ [mark] := by
  induction items with
  | nil => rfl
  | cons item items ih =>
    rw [List.flatMap_cons, List.flatMap_cons, List.append_assoc, List.singleton_append, ih]
    simp

theorem matrixLines_eq (assessments : List Assessment) (title rootPackage : String) :
    matrixLines assessments title rootPackage =
      sheet title rootPackage assessments.length (partsOf assessments) ++ [""] := by
  have block (group : String) : groupLines assessments rootPackage group =
      (GroupPart.heading rootPackage (partOf assessments group) :: "" ::
        (inGroup assessments group).map entryText) ++ [""] := by
    rw [groupLines, List.map_congr_left fun entry _ => entryLine_eq entry]
    rfl
  -- The empty line after the legend and after each group is read as one before the next group.
  have parts : "" :: (groups assessments).flatMap (groupLines assessments rootPackage) =
      (partsOf assessments).flatMap (GroupPart.lines rootPackage) ++ [""] := by
    rw [funext block, concat_flatMap_concat, partsOf, List.flatMap_map]
    rfl
  have legend : Status.all.map legendLine =
      ["- ✅ implemented: a real implementation exists in the target tree",
        "- 🟡 planned: missing, or still a placeholder skeleton",
        "- ⚠️ subset: ported with a reduced feature set",
        "- ⛔ unsupported: no sensible equivalent on the target platform"] := by decide +kernel
  rw [matrixLines, legend, sheet, List.append_assoc, List.append_assoc, List.singleton_append,
    parts, List.append_assoc]
  rfl

section Trimmed

def EndsSolid (line : String) : Prop :=
  ∃ front last, line.toList = front ++ [last] ∧ isBlank last = false

theorem feedLines_concat (lines : List String) (line : String) :
    feedLines (lines ++ [line]) = feedLines lines ++ line.toList ++ ['\n'] := by
  simp [feedLines]

theorem trimEnd_feedLines_concat (lines : List String) {line : String} (solid : EndsSolid line) :
    trimEnd (feedLines (lines ++ [line])) = feedLines lines ++ line.toList := by
  obtain ⟨front, last, spelled, refused⟩ := solid
  rw [feedLines_concat, trimEnd_append_blank allBlank_feed, spelled]
  simp [trimEnd, refused]

theorem endsSolid_entryText {assessment : Assessment}
    (identifier : IsIdentifier assessment.name.toList) : EndsSolid (entryText assessment) := by
  rw [entryText]
  cases assessment.best with
  | none =>
    obtain ⟨front, last, spelled⟩ :=
      (List.eq_nil_or_concat' assessment.name.toList).resolve_left identifier.ne_nil
    refine ⟨("- " ++ assessment.status.glyph ++ " ").toList ++ front, last, ?_, ?_⟩
    · rw [String.toList_append, spelled, List.append_assoc]
    · apply isBlank_eq_false_of_isNameChar
      exact identifier.isNameChar last (by rw [spelled]; simp)
  | some target =>
    exact ⟨_, '`', String.toList_append, by decide⟩

variable {assessments : List Assessment}
  (named : ∀ assessment ∈ assessments, IsIdentifier assessment.name.toList)
  (title rootPackage : String)

include named in
theorem exists_sheet_concat :
    ∃ lines last,
      sheet title rootPackage assessments.length (partsOf assessments) = lines ++ [last] ∧
        EndsSolid last := by
  rcases List.eq_nil_or_concat' (groups assessments) with none | ⟨before, group, all⟩
  · refine ⟨(preamble title rootPackage assessments.length).dropLast,
      "- ⛔ unsupported: no sensible equivalent on the target platform", ?_, ?_⟩
    · rw [sheet, partsOf, none]
      rfl
    · exact ⟨"- ⛔ unsupported: no sensible equivalent on the target platfor".toList, 'm',
        by decide +kernel, by decide⟩
  · -- A listed group is never empty, so the sheet does not end with a heading's empty line.
    obtain ⟨assessment, present, own⟩ :=
      mem_groups_iff.mp (show group ∈ groups assessments by rw [all]; simp)
    have further : inGroup assessments group ≠ [] :=
      List.ne_nil_of_mem (mem_inGroup_iff.mpr ⟨present, own⟩)
    obtain ⟨entries, last, entriesAll⟩ :=
      (List.eq_nil_or_concat' (inGroup assessments group)).resolve_left further
    have listed : last ∈ inGroup assessments group := by
      rw [entriesAll]
      exact List.mem_concat_self
    have member := (mem_inGroup_iff.mp listed).1
    have ending : (partOf assessments group).lines rootPackage =
        ("" :: (partOf assessments group).heading rootPackage :: "" :: entries.map entryText) ++
          [entryText last] := by
      rw [GroupPart.lines, partOf, entriesAll, List.map_append]
      rfl
    refine ⟨sheet title rootPackage assessments.length (before.map (partOf assessments)) ++
      ("" :: (partOf assessments group).heading rootPackage :: "" :: entries.map entryText),
      entryText last, ?_, endsSolid_entryText (named last member)⟩
    rw [sheet, partsOf, all, List.map_append, List.flatMap_append, List.map_singleton,
      List.flatMap_singleton, ending, sheet, List.append_assoc, List.append_assoc]

include named in
theorem matrix_eq :
    matrix assessments title rootPackage =
      String.join ((sheet title rootPackage assessments.length (partsOf assessments)).map
        (· ++ "\n")) := by
  obtain ⟨lines, last, spelled, solid⟩ := exists_sheet_concat named title rootPackage
  apply String.toList_inj.mp
  rw [toList_join_feed, matrix, matrixLines_eq, toList_joinWith_last, String.toList_append,
    String.toList_ofList, spelled, String.toList_empty, List.append_nil,
    trimEnd_feedLines_concat lines solid, feedLines_concat]
  rfl

include named in
theorem matrix_ends :
    ∃ front last, (matrix assessments title rootPackage).toList = front ++ [last, '\n'] ∧
      last ≠ '\n' := by
  obtain ⟨lines, line, spelled, front, last, ending, solid⟩ :=
    exists_sheet_concat named title rootPackage
  refine ⟨feedLines lines ++ front, last, ?_, ?_⟩
  · rw [matrix_eq named, toList_join_feed, spelled, feedLines_concat, ending]
    simp
  · rintro rfl
    exact absurd solid (by decide)

end Trimmed

section Lines

variable {assessments : List Assessment} {title rootPackage : String}
  (named : ∀ assessment ∈ assessments, IsIdentifier assessment.name.toList)
  (grouped : ∀ assessment ∈ assessments, ∀ c ∈ assessment.group.toList, isPackageChar c = true)
  (matched : ∀ assessment ∈ assessments, ∀ target ∈ assessment.best,
    OneLine target.package ∧ OneLine target.name)
  (titled : OneLine title) (rooted : OneLine rootPackage)

theorem oneLine_entryText {assessment : Assessment} (name : OneLine assessment.name)
    (best : ∀ target ∈ assessment.best, OneLine target.package ∧ OneLine target.name) :
    OneLine (entryText assessment) := by
  have dash : OneLine "- " := by decide
  have gap : OneLine " " := by decide
  have shown := ((dash.append (oneLine_glyph assessment.status)).append gap).append name
  rw [entryText]
  cases found : assessment.best with
  | none => exact shown
  | some target =>
    have arrow : OneLine " → `" := by decide
    have dot : OneLine "." := by decide
    have tick : OneLine "`" := by decide
    have parts := best target found
    exact ((((shown.append arrow).append parts.1).append dot).append parts.2).append tick

theorem oneLine_heading {part : GroupPart} (group : OneLine part.group)
    (rooted : OneLine rootPackage) : OneLine (part.heading rootPackage) := by
  have tick : OneLine "`" := by decide
  rw [GroupPart.heading]
  split
  · have root : OneLine "## Root package `" := by decide
    exact (root.append rooted).append tick
  · have start : OneLine "## `" := by decide
    exact (start.append group).append tick

theorem oneLine_preamble (titled : OneLine title) (rooted : OneLine rootPackage) (count : Nat) :
    ∀ line ∈ preamble title rootPackage count, OneLine line := by
  have hash : OneLine "# " := by decide
  have source : OneLine "Generated from the public top-level declarations under `" := by
    decide +kernel
  have tick : OneLine "` (" := by decide
  have tail : OneLine " total), matched against the target source tree." := by decide +kernel
  simp only [preamble, List.forall_mem_cons]
  refine ⟨hash.append titled, by decide, ?_, by decide +kernel⟩
  exact (((source.append rooted).append tick).append (oneLine_toString count)).append tail

include named grouped matched titled rooted in
theorem oneLine_sheet :
    ∀ line ∈ sheet title rootPackage assessments.length (partsOf assessments), OneLine line := by
  rw [sheet, List.forall_mem_append]
  refine ⟨oneLine_preamble titled rooted _, ?_⟩
  intro line member
  obtain ⟨part, listed, shown⟩ := List.mem_flatMap.mp member
  obtain ⟨group, present, rfl⟩ := List.mem_map.mp listed
  obtain ⟨assessment, among, rfl⟩ := mem_groups_iff.mp present
  have empty : OneLine "" := by decide
  simp only [GroupPart.lines, List.mem_cons, List.mem_map] at shown
  rcases shown with rfl | rfl | rfl | ⟨entry, entered, rfl⟩
  · exact empty
  · exact oneLine_heading (oneLine_of_isPackageChar (grouped assessment among)) rooted
  · exact empty
  · have own := (mem_inGroup_iff.mp entered).1
    have name := Source.feed_not_mem_of_isIdentifier (named entry own)
    exact oneLine_entryText name (matched entry own)

end Lines

section Parts

variable {assessments others : List Assessment}

theorem group_eq_of_heading_eq {rootPackage : String} {part other : GroupPart}
    (same : part.heading rootPackage = other.heading rootPackage) : part.group = other.group := by
  have root (group : String) :
      "## Root package `" ++ rootPackage ++ "`" ≠ "## `" ++ group ++ "`" := by
    intro same
    have fourth := congrArg (fun line => line.toList[3]?) same
    simp at fourth
  rw [GroupPart.heading, GroupPart.heading] at same
  split at same <;> split at same
  · next first second => rw [first, second]
  · exact absurd same (root other.group)
  · exact absurd same.symm (root part.group)
  · rwa [String.append_left_inj, String.append_right_inj] at same

theorem lists_partsOf (assessments : List Assessment) (rootPackage : String) :
    Lists (partsOf assessments) rootPackage assessments where
  sorted := by
    rw [partsOf, List.flatMap_map]
    exact flatMap_inGroup assessments
  everyGroup := by
    intro group
    rw [partsOf, List.map_map, ← mem_groups_iff]
    exact Eq.to_iff (congrArg (group ∈ ·) (List.map_id _))
  oneHeading := by
    rw [partsOf, List.map_map]
    exact List.Nodup.map (fun _ _ => group_eq_of_heading_eq) (nodup_groups assessments)
  under := by
    intro part listed entry entered
    obtain ⟨group, -, rfl⟩ := List.mem_map.mp listed
    exact (mem_inGroup_iff.mp entered).2
  rootFirst := by
    intro part listed root
    obtain ⟨group, member, rfl⟩ := List.mem_map.mp listed
    obtain rfl : group = "" := root
    rw [partsOf, List.head?_map, head?_groups member, Option.map_some]

/-- In whatever order assessments come, the parts are the same but for the order of entries of one
name. -/
theorem reordered_partsOf (reordered : assessments.Perm others) :
    List.Forall₂ GroupPart.Reordered (partsOf assessments) (partsOf others) := by
  rw [partsOf, partsOf, groups_of_standings (reordered.map standing), List.forall₂_map_left_iff,
    List.forall₂_map_right_iff, List.forall₂_same]
  intro group _
  have kept := reordered.filter fun assessment => assessment.group == group
  exact
    { group := rfl
      entries := (List.mergeSort_perm _ _).trans (kept.trans (List.mergeSort_perm _ _).symm)
      names := map_name_inGroup_of_perm reordered group }

end Parts

/-- The matrix lists every assessment once, sorted by group and name, under the one heading of its
group, and ends with one line feed. Another order of the assessments can only reorder entries of one
group and name. -/
theorem matrix_lists_sorted {assessments : List Assessment} {title rootPackage : String}
    (named : ∀ assessment ∈ assessments, IsIdentifier assessment.name.toList)
    (grouped : ∀ assessment ∈ assessments, ∀ c ∈ assessment.group.toList, isPackageChar c = true)
    (matched : ∀ assessment ∈ assessments, ∀ target ∈ assessment.best,
      OneLine target.package ∧ OneLine target.name)
    (titled : OneLine title) (rooted : OneLine rootPackage) :
    ∃ parts : List GroupPart,
      matrix assessments title rootPackage =
          String.join ((sheet title rootPackage assessments.length parts).map (· ++ "\n")) ∧
        (∀ line ∈ sheet title rootPackage assessments.length parts, OneLine line) ∧
        Lists parts rootPackage assessments ∧
        (∃ front last, (matrix assessments title rootPackage).toList = front ++ [last, '\n'] ∧
          last ≠ '\n') ∧
        ∀ reordered, assessments.Perm reordered → ∃ others : List GroupPart,
          matrix reordered title rootPackage =
              String.join ((sheet title rootPackage assessments.length others).map (· ++ "\n")) ∧
            List.Forall₂ GroupPart.Reordered parts others := by
  refine ⟨partsOf assessments, matrix_eq named title rootPackage,
    oneLine_sheet named grouped matched titled rooted, lists_partsOf assessments rootPackage,
    matrix_ends named title rootPackage, ?_⟩
  intro reordered permuted
  have renamed : ∀ assessment ∈ reordered, IsIdentifier assessment.name.toList :=
    fun assessment member => named assessment (permuted.mem_iff.mpr member)
  refine ⟨partsOf reordered, ?_, reordered_partsOf permuted⟩
  rw [permuted.length_eq]
  exact matrix_eq renamed title rootPackage

theorem matrix_lists_sorted_tied :
    let pair : SourceDeclaration := ⟨"org.a.tuple", .classType, "Pair", "tuple", ⟨"P.java"⟩, none⟩
    let bits : SourceDeclaration := ⟨"org.a", .classType, "BitField", "", ⟨"B.java"⟩, none⟩
    let target : TargetDeclaration := ⟨"lib.tuple", .classType, "Pair", ⟨"src/pair.cj"⟩⟩
    let assessments : List Assessment :=
      [⟨pair, some target, .implemented⟩, ⟨pair, none, .planned⟩, ⟨bits, none, .subset⟩]
    let reordered : List Assessment :=
      [⟨bits, none, .subset⟩, ⟨pair, none, .planned⟩, ⟨pair, some target, .implemented⟩]
    (∀ assessment ∈ assessments, IsIdentifier assessment.name.toList) ∧
      (∀ assessment ∈ assessments, ∀ c ∈ assessment.group.toList, isPackageChar c = true) ∧
      (∀ assessment ∈ assessments, ∀ target ∈ assessment.best,
        OneLine target.package ∧ OneLine target.name) ∧
      assessments.Perm reordered ∧
      ∃ parts others : List GroupPart,
        matrix assessments "Matrix" "org.a" =
            String.join ((sheet "Matrix" "org.a" 3 parts).map (· ++ "\n")) ∧
          Lists parts "org.a" assessments ∧
          matrix reordered "Matrix" "org.a" =
            String.join ((sheet "Matrix" "org.a" 3 others).map (· ++ "\n")) ∧
          List.Forall₂ GroupPart.Reordered parts others := by
  intro pair bits target assessments reordered
  have named : ∀ assessment ∈ assessments, IsIdentifier assessment.name.toList := by decide
  have grouped : ∀ assessment ∈ assessments,
      ∀ c ∈ assessment.group.toList, isPackageChar c = true := by decide
  have matched : ∀ assessment ∈ assessments, ∀ target ∈ assessment.best,
      OneLine target.package ∧ OneLine target.name := by decide
  have permuted : assessments.Perm reordered := by decide
  obtain ⟨parts, text, -, lists, -, others⟩ := matrix_lists_sorted named grouped matched
    (by decide : OneLine "Matrix") (by decide : OneLine "org.a")
  obtain ⟨others, again, traded⟩ := others reordered permuted
  exact ⟨named, grouped, matched, permuted, parts, others, text, lists, again, traded⟩

end ApiMigration.Report
