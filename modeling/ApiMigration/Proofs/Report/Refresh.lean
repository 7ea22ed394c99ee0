import ApiMigration.Proofs.Report.Merge
import ApiMigration.Report.Gap
import Mathlib.Data.List.Infix

/-!
Refreshing the gap section. The markers are written as configured but looked for without the blanks
around them, and lines of the section can be markers themselves; the condition under which a second
refresh changes nothing is exact.
-/

namespace ApiMigration.Report

open Text

theorem fault?_eq_none_iff (settings : Settings) :
    settings.fault? = none ↔ ProperMarkers settings.beginMarker settings.endMarker := by
  have feed : "\n".toList = ['\n'] := by decide
  have checked (broken : Prop) [Decidable broken] (fault : String) (rest : Option String) :
      (if broken then some fault else rest) = none ↔ ¬ broken ∧ rest = none := by
    by_cases held : broken
    · simp [held]
    · simp [held]
  simp only [Settings.fault?, checked, holds, feed, Bool.or_eq_true, decide_eq_true_eq,
    contains_iff_isInfix, List.singleton_infix_iff, not_or, and_true]
  constructor
  · rintro ⟨⟨openingSolid, closingSolid⟩, ⟨openingSingle, closingSingle⟩, openingApart, closingApart⟩
    exact ⟨openingSolid, closingSolid, openingSingle, closingSingle, openingApart, closingApart⟩
  · intro proper
    exact ⟨⟨proper.openingSolid, proper.closingSolid⟩,
      ⟨proper.openingSingle, proper.closingSingle⟩, proper.openingApart, proper.closingApart⟩

def OneLine (text : String) : Prop :=
  '\n' ∉ text.toList

instance (text : String) : Decidable (OneLine text) :=
  inferInstanceAs (Decidable ('\n' ∉ text.toList))

theorem OneLine.append {left right : String} (first : OneLine left) (second : OneLine right) :
    OneLine (left ++ right) := by
  simp only [OneLine, String.toList_append, List.mem_append, not_or]
  exact ⟨first, second⟩

theorem oneLine_toString (count : Nat) : OneLine (toString count) :=
  feed_not_mem_toString count

theorem oneLine_glyph (status : Status) : OneLine status.glyph := by
  cases status <;> decide

theorem oneLine_label (status : Status) : OneLine status.label := by
  cases status <;> decide

theorem oneLine_totalLine (totals : Tally) (status : Status) : OneLine (totalLine totals status) := by
  have dash : OneLine "- " := by decide
  have gap : OneLine " " := by decide
  have colon : OneLine ": " := by decide
  exact ((((dash.append (oneLine_glyph status)).append gap).append (oneLine_label status)).append
    colon).append (oneLine_toString _)

theorem oneLine_tableRow {cells : List String} (single : ∀ cell ∈ cells, OneLine cell) :
    OneLine (tableRow cells) := by
  have bar : OneLine "|" := by decide
  have gap : OneLine " " := by decide
  have stop : OneLine " |" := by decide
  refine bar.append ?_
  intro member
  rw [String.toList_join, List.mem_flatMap] at member
  obtain ⟨cell, inside, feed⟩ := member
  obtain ⟨text, present, rfl⟩ := List.mem_map.mp inside
  exact (gap.append (single text present)).append stop feed

theorem oneLine_groupRow (assessments : List Assessment) {group : String} (single : OneLine group) :
    OneLine (groupRow assessments group) := by
  apply oneLine_tableRow
  intro cell member
  simp only [List.cons_append, List.nil_append, List.mem_cons, List.mem_append, List.mem_map,
    List.not_mem_nil, or_false] at member
  rcases member with rfl | ⟨status, -, rfl⟩ | rfl
  · unfold groupLabel
    split
    · decide
    · exact single
  · exact oneLine_toString _
  · exact oneLine_toString _

theorem oneLine_openLine {assessment : Assessment} (name : OneLine assessment.name)
    (group : OneLine assessment.group) : OneLine (openLine assessment) := by
  have dash : OneLine "- " := by decide
  have gap : OneLine " " := by decide
  have dot : OneLine "." := by decide
  have shown : OneLine (if assessment.group = "" then "root" else assessment.group) := by
    split
    · decide
    · exact group
  exact ((((dash.append (oneLine_glyph _)).append gap).append shown).append dot).append name

theorem oneLine_gapBody {assessments : List Assessment}
    (single : ∀ assessment ∈ assessments, OneLine assessment.name ∧ OneLine assessment.group) :
    ∀ line ∈ gapBody assessments, OneLine line := by
  have groups : ∀ group ∈ Assessment.groups assessments, OneLine group := by
    intro group member
    rw [Assessment.groups, List.mem_mergeSort, List.mem_eraseDups] at member
    obtain ⟨assessment, present, rfl⟩ := List.mem_map.mp member
    exact (single assessment present).2
  have entries : ∀ line ∈ openLines assessments, OneLine line := by
    intro line member
    unfold openLines at member
    split at member
    · rw [List.mem_singleton.mp member]
      decide
    · obtain ⟨assessment, present, rfl⟩ := List.mem_map.mp member
      rw [openEntries, List.mem_mergeSort] at present
      have held := single assessment (List.mem_filter.mp present).1
      exact oneLine_openLine held.1 held.2
  have declarations : OneLine "- Declarations: " := by decide
  have empty : OneLine "" := by decide
  simp only [gapBody, List.forall_mem_append, List.forall_mem_cons, List.forall_mem_map]
  refine ⟨⟨⟨⟨⟨⟨?first, ?totals⟩, ?heading⟩, ?rows⟩, ?title⟩, entries⟩, empty, ?last⟩
  case first =>
    exact ⟨empty, by decide, empty, declarations.append (oneLine_toString _), by simp⟩
  case totals =>
    intro status _
    exact oneLine_totalLine _ status
  case heading =>
    exact ⟨empty, by decide, empty, by decide, by decide, by simp⟩
  case rows =>
    intro group member
    exact oneLine_groupRow assessments (groups group member)
  case title =>
    exact ⟨empty, by decide, empty, by simp⟩
  case last => simp

theorem fullLines_feedLines {lines : List String} (single : ∀ line ∈ lines, OneLine line) :
    fullLines (feedLines lines) = lines.map fun line => line.toList ++ ['\n'] := by
  induction lines with
  | nil => rfl
  | cons line lines ih =>
    have rest := ih fun other member => single other (List.mem_cons_of_mem line member)
    have first := fullLines_line (single line List.mem_cons_self) (feedLines lines)
    rw [rest] at first
    simpa only [feedLines, List.flatMap_cons, List.append_assoc, List.singleton_append,
      List.map_cons] using first

theorem quiet_feedLines_iff {opening closing : List Char} {lines : List String}
    (single : ∀ line ∈ lines, OneLine line) :
    Quiet opening closing (fullLines (feedLines lines)) ↔
      ∀ line ∈ lines, trim line.toList ≠ opening ∧ trim line.toList ≠ closing := by
  rw [fullLines_feedLines single, Quiet, List.forall_mem_map]
  simp only [trim_append_blank allBlank_feed]

theorem toList_gapSection (assessments : List Assessment) (settings : Settings) :
    (gapSection assessments settings).toList =
      settings.beginMarker.toList ++
        '\n' :: (feedLines (gapBody assessments) ++ settings.endMarker.toList) ++ ['\n'] := by
  rw [gapSection, gapLines, List.append_assoc, List.singleton_append, toList_joinWith_feed]
  simp [feedLines]

section Padding

variable {opening closing : List Char}

theorem bracketed_padded (pair : MarkerPair (trim opening) (trim closing))
    {before afterOpening beforeClosing after middle : List Char}
    (openingSplit : opening = before ++ trim opening ++ afterOpening)
    (closingSplit : closing = beforeClosing ++ trim closing ++ after)
    (beforeBlank : AllBlank before) (afterOpeningBlank : AllBlank afterOpening)
    (beforeClosingBlank : AllBlank beforeClosing) (afterBlank : AllBlank after)
    (complete : Complete middle) (document : List Char) :
    Bracketed (trim opening) (trim closing)
      (mergeChars opening closing document (opening ++ '\n' :: (middle ++ closing) ++ ['\n']))
      ⟨(site opening closing document).before ++ before,
        after ++ (site opening closing document).after⟩
      (afterOpening ++ '\n' :: (middle ++ beforeClosing)) := by
  obtain ⟨start, stop, free⟩ := site_spec pair document
  refine
    { split := ?_
      start := start.append_blank beforeBlank
      between := ⟨_, _, _, rfl, afterOpeningBlank, complete, beforeClosingBlank⟩
      stop := stop.blank_append afterBlank
      free := ?_ }
  · rw [mergeChars_eq_site]
    have text_eq : opening ++ '\n' :: (middle ++ closing) =
        (before ++ trim opening ++ afterOpening) ++
          '\n' :: (middle ++ (beforeClosing ++ trim closing ++ after)) := by
      rw [← openingSplit, ← closingSplit]
    rw [text_eq]
    simp only [List.append_assoc, List.cons_append]
  · rw [unpaired_iff_solidLines pair, solidLines_append_blank beforeBlank,
      ← unpaired_iff_solidLines pair]
    exact free

/-- A second merge of a section whose markers are written as given changes nothing exactly when no
blank stands outside them and no line between them holds a marker. -/
theorem mergeChars_again_iff (pair : MarkerPair (trim opening) (trim closing)) {middle : List Char}
    (complete : Complete middle) (document : List Char) :
    mergeChars opening closing
        (mergeChars opening closing document (opening ++ '\n' :: (middle ++ closing) ++ ['\n']))
        (opening ++ '\n' :: (middle ++ closing) ++ ['\n']) =
      mergeChars opening closing document (opening ++ '\n' :: (middle ++ closing) ++ ['\n']) ↔
    opening.head?.any isBlank = false ∧ closing.getLast?.any isBlank = false ∧
      Quiet (trim opening) (trim closing) (fullLines middle) := by
  obtain ⟨before, afterOpening, beforeBlank, afterOpeningBlank, openingSplit⟩ :=
    exists_trim_split opening
  obtain ⟨beforeClosing, after, beforeClosingBlank, afterBlank, closingSplit⟩ :=
    exists_trim_split closing
  have bracketed := bracketed_padded pair openingSplit closingSplit beforeBlank afterOpeningBlank
    beforeClosingBlank afterBlank complete document
  obtain ⟨later, sooner, found, undisturbed⟩ := bracketed.surroundings pair
  have innerQuiet : Quiet (trim opening) (trim closing)
        (fullLines (afterOpening ++ '\n' :: (middle ++ beforeClosing))) ↔
      Quiet (trim opening) (trim closing) (fullLines middle) := by
    rw [quiet_iff_solidLines pair, solidLines_between afterOpeningBlank beforeClosingBlank,
      ← quiet_iff_solidLines pair]
  have leading := blank_left_eq_nil_iff pair.openingTrimmed pair.openingSolid beforeBlank afterOpening
  have trailing :=
    blank_right_eq_nil_iff pair.closingTrimmed pair.closingSolid afterBlank beforeClosing
  rw [← openingSplit] at leading
  rw [← closingSplit] at trailing
  rw [← leading, ← trailing, ← innerQuiet]
  generalize written_eq : opening ++ '\n' :: (middle ++ closing) = written at bracketed found ⊢
  have moved : site opening closing (mergeChars opening closing document (written ++ ['\n'])) =
      ⟨(site opening closing document).before ++ before ++ later,
        sooner ++ (after ++ (site opening closing document).after)⟩ := by
    rw [site, surroundings?, found, Option.getD_some]
  have second := @mergeChars_eq_site opening closing
    (mergeChars opening closing document (written ++ ['\n'])) written
  rw [second, moved, mergeChars_eq_site document]
  constructor
  · intro same
    -- Whatever the second merge adds outside the section makes the document longer.
    have lengths := congrArg List.length same
    simp only [List.length_append] at lengths
    have noBefore : before = [] := List.length_eq_zero_iff.mp (by omega)
    have noAfter : after = [] := List.length_eq_zero_iff.mp (by omega)
    have noLater : later = [] := List.length_eq_zero_iff.mp (by omega)
    have noSooner : sooner = [] := List.length_eq_zero_iff.mp (by omega)
    rw [noLater, noSooner, List.append_nil, List.nil_append] at found
    obtain ⟨inner, other, quiet⟩ := (surroundings?_eq_some_iff pair).mp found
    rw [bracketed.inner_eq other]
    exact ⟨noBefore, noAfter, quiet⟩
  · rintro ⟨rfl, rfl, quiet⟩
    obtain ⟨rfl, rfl⟩ := undisturbed quiet
    simp only [List.append_nil, List.nil_append]

end Padding

/-- What keeps a refreshed document as it is: the markers have no blanks on their outer sides, and
no line of the section is one of them. -/
structure Steady (assessments : List Assessment) (settings : Settings) : Prop where
  opens : settings.beginMarker.toList.head?.any isBlank = false
  closes : settings.endMarker.toList.getLast?.any isBlank = false
  body : ∀ line ∈ gapBody assessments,
    trimmed line ≠ trimmed settings.beginMarker ∧ trimmed line ≠ trimmed settings.endMarker

theorem trimmed_ne_iff {left right : String} :
    trimmed left ≠ trimmed right ↔ trim left.toList ≠ trim right.toList := by
  rw [trimmed, trimmed, ne_eq, ne_eq, String.ofList_inj]

/-- A second refresh leaves the document of the first as it is exactly when the settings are steady
for the assessments. This is so for every document, with or without a region. -/
theorem merge_gapSection_again_iff (settings : Settings) (accepted : settings.fault? = none)
    (assessments : List Assessment)
    (single : ∀ assessment ∈ assessments, OneLine assessment.name ∧ OneLine assessment.group)
    (document : String) :
    merge settings.beginMarker settings.endMarker
        (merge settings.beginMarker settings.endMarker document (gapSection assessments settings))
        (gapSection assessments settings) =
      merge settings.beginMarker settings.endMarker document (gapSection assessments settings) ↔
    Steady assessments settings := by
  have pair := ((fault?_eq_none_iff settings).mp accepted).pair
  have again := mergeChars_again_iff pair (complete_feedLines (gapBody assessments)) document.toList
  rw [quiet_feedLines_iff (oneLine_gapBody single)] at again
  simp only [merge, String.ofList_inj, String.toList_ofList, toList_gapSection, again]
  constructor
  · rintro ⟨opens, closes, body⟩
    refine ⟨opens, closes, ?_⟩
    intro line member
    rw [trimmed_ne_iff, trimmed_ne_iff]
    exact body line member
  · rintro ⟨opens, closes, body⟩
    refine ⟨opens, closes, ?_⟩
    intro line member
    rw [← trimmed_ne_iff, ← trimmed_ne_iff]
    exact body line member

theorem merge_gapSection_again_default :
    ({} : Settings).fault? = none ∧
      (∀ assessment ∈ [Assessment.mk (.under "lib" "lib.text" .classType "Pair" ⟨"Pair.java"⟩)
          none .planned], OneLine assessment.name ∧ OneLine assessment.group) ∧
      let newSection := gapSection [Assessment.mk (.under "lib" "lib.text" .classType "Pair"
        ⟨"Pair.java"⟩) none .planned] {}
      let once := merge ({} : Settings).beginMarker ({} : Settings).endMarker "# Gaps" newSection
      merge ({} : Settings).beginMarker ({} : Settings).endMarker once newSection = once := by
  have accepted : ({} : Settings).fault? = none := by decide +kernel
  have single : ∀ assessment ∈ [Assessment.mk (.under "lib" "lib.text" .classType "Pair"
      ⟨"Pair.java"⟩) none .planned], OneLine assessment.name ∧ OneLine assessment.group := by
    decide +kernel
  refine ⟨accepted, single, ?_⟩
  apply (merge_gapSection_again_iff {} accepted _ single "# Gaps").mpr
  exact ⟨by decide +kernel, by decide +kernel, by decide +kernel⟩

/-- Accepted settings under which every refresh pushes the begin marker further to the right. -/
theorem merge_gapSection_drifts :
    ({ beginMarker := "  <b>", endMarker := "<e>" } : Settings).fault? = none ∧
      let newSection := gapSection [] { beginMarker := "  <b>", endMarker := "<e>" }
      let once := merge "  <b>" "<e>" "" newSection
      merge "  <b>" "<e>" once newSection ≠ once := by
  have accepted : ({ beginMarker := "  <b>", endMarker := "<e>" } : Settings).fault? = none := by
    decide +kernel
  refine ⟨accepted, ?_⟩
  intro newSection once same
  have pair := ((fault?_eq_none_iff _).mp accepted).pair
  have lists := congrArg String.toList same
  simp only [once, newSection, merge, String.toList_ofList, toList_gapSection] at lists
  have steady := (mergeChars_again_iff pair (complete_feedLines (gapBody [])) "".toList).mp lists
  have padded : "  <b>".toList.head?.any isBlank = true := by decide
  rw [steady.1] at padded
  cases padded

end ApiMigration.Report
