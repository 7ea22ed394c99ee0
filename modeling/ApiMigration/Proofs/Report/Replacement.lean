import ApiMigration.Proofs.Report.Refresh
import Mathlib.Order.Bounds.Basic

/-!
What merging does to a document, told by the text of the document alone. Where a begin marker is
above an end marker there is one region between two of them, and the section takes its place;
elsewhere the section is appended after an empty line.
-/

namespace ApiMigration.Report

open Text

def EndsWithEmptyLine (text : List Char) : Prop :=
  text = [] ∨ ['\n', '\n'] <:+ text

def withFeeds (text : List Char) (count : Nat) : List Char :=
  text ++ List.replicate count '\n'

/-- A bracketed part of the document with no marker on a line inside. -/
structure IsRegion (opening closing document : List Char) (around : Surroundings)
    (inner : List Char) : Prop where
  bracketed : Bracketed opening closing document around inner
  quiet : Quiet opening closing (fullLines inner)

instance (text : List Char) : Decidable (Complete text) :=
  inferInstanceAs (Decidable (text = [] ∨ text.getLast? = some '\n'))

instance (text : List Char) : Decidable (AllBlank text) :=
  decidable_of_iff (text.all isBlank = true) List.all_eq_true

instance (opening closing : List Char) (lines : List (List Char)) :
    Decidable (Unpaired opening closing lines) :=
  inferInstanceAs (Decidable (lines.Pairwise _))

instance (opening closing : List Char) (lines : List (List Char)) :
    Decidable (Quiet opening closing lines) :=
  inferInstanceAs (Decidable (∀ line ∈ lines, trim line ≠ opening ∧ trim line ≠ closing))

theorem separator_eq_replicate (document : List Char) :
    separator document = List.replicate (separator document).length '\n' := by
  unfold separator
  split <;> rfl

theorem endsWithEmptyLine_withFeeds_iff {document : List Char} {count : Nat} :
    EndsWithEmptyLine (withFeeds document count) ↔
      count = 0 ∧ document = [] ∨
        ['\n', '\n'] <+: List.replicate count '\n' ++ document.reverse := by
  rw [EndsWithEmptyLine, withFeeds, ← List.reverse_prefix, List.reverse_append,
    List.reverse_replicate, List.append_eq_nil_iff, List.replicate_eq_nil_iff, and_comm]
  rfl

theorem isLeast_separator (document : List Char) :
    IsLeast {count | EndsWithEmptyLine (withFeeds document count)} (separator document).length := by
  simp only [IsLeast, mem_lowerBounds, Set.mem_ofPred_eq, endsWithEmptyLine_withFeeds_iff]
  unfold separator
  split
  next empty => simp [List.reverse_eq_nil_iff.mp empty]
  next rest ends => simp [ends]
  next rest single ends =>
    refine ⟨by simp [ends], ?_⟩
    intro count enough
    rcases count with _ | count
    · -- Without a further feed the second last character would be one.
      rw [ends] at enough
      rcases enough with ⟨-, empty⟩ | ⟨tail, twice⟩
      · simp [empty] at ends
      · exact absurd (by simpa using twice.symm) (single tail)
    · exact Nat.le_add_left 1 count
  next solid _ other =>
    refine ⟨by simp, ?_⟩
    intro count enough
    rcases count with _ | _ | count
    · rcases enough with ⟨-, empty⟩ | ⟨tail, twice⟩
      · exact absurd (by simp [empty]) solid
      · exact absurd twice.symm (other _)
    · rcases enough with ⟨one, -⟩ | ⟨tail, twice⟩
      · cases one
      · exact absurd (by simpa using twice.symm) (other tail)
    · exact Nat.le_add_left 2 count

theorem withoutFinalFeed_spec (text : List Char) :
    text = withoutFinalFeed text ++ ['\n'] ∨
      text = withoutFinalFeed text ∧ (withoutFinalFeed text).getLast? ≠ some '\n' := by
  unfold withoutFinalFeed
  split
  next feed => exact Or.inl (List.dropLast_append_getLast? _ feed).symm
  next other => exact Or.inr ⟨rfl, other⟩

section Region

variable {opening closing document inner other : List Char} {around elsewhere : Surroundings}

theorem surroundings?_eq_some_iff_isRegion (pair : MarkerPair (trim opening) (trim closing)) :
    surroundings? opening closing document = some around ↔
      ∃ inner, IsRegion (trim opening) (trim closing) document around inner := by
  rw [surroundings?_eq_some_iff pair]
  exact exists_congr fun inner => ⟨fun ⟨bracketed, quiet⟩ => ⟨bracketed, quiet⟩,
    fun region => ⟨region.bracketed, region.quiet⟩⟩

theorem IsRegion.unique (pair : MarkerPair (trim opening) (trim closing))
    (first : IsRegion (trim opening) (trim closing) document around inner)
    (second : IsRegion (trim opening) (trim closing) document elsewhere other) :
    elsewhere = around ∧ other = inner := by
  have found := (surroundings?_eq_some_iff_isRegion pair).mpr ⟨inner, first⟩
  have again := (surroundings?_eq_some_iff_isRegion pair).mpr ⟨other, second⟩
  obtain rfl : elsewhere = around := Option.some.inj (again.symm.trans found)
  exact ⟨rfl, second.bracketed.inner_eq first.bracketed⟩

end Region

/-- A document with no begin marker above an end marker gets the section after an empty line. Any
other has exactly one region, and the section, without a line feed at its end, takes the place of
that region and its two markers. -/
theorem merge_replaces_only_region (settings : Settings) (accepted : settings.fault? = none)
    (document newSection : String) :
    let opening := (trimmed settings.beginMarker).toList
    let closing := (trimmed settings.endMarker).toList
    let merged := (merge settings.beginMarker settings.endMarker document newSection).toList
    (Unpaired opening closing (fullLines document.toList) →
      ∃ feeds, IsLeast {count | EndsWithEmptyLine (withFeeds document.toList count)} feeds ∧
        merged = withFeeds document.toList feeds ++ newSection.toList) ∧
    (¬ Unpaired opening closing (fullLines document.toList) →
      ∃ around inner, IsRegion opening closing document.toList around inner ∧
        (∀ elsewhere other, IsRegion opening closing document.toList elsewhere other →
          elsewhere = around ∧ other = inner) ∧
        ∃ text,
          (newSection.toList = text ++ ['\n'] ∨
            newSection.toList = text ∧ text.getLast? ≠ some '\n') ∧
          merged = around.before ++ text ++ around.after) := by
  have pair := ((fault?_eq_none_iff settings).mp accepted).pair
  simp only [toList_trimmed, merge, String.toList_ofList]
  constructor
  · intro free
    refine ⟨_, isLeast_separator document.toList, ?_⟩
    rw [withFeeds, ← separator_eq_replicate, mergeChars,
      (surroundings?_eq_none_iff pair).mpr free]
  · intro paired
    obtain ⟨around, found⟩ : ∃ around, surroundings? settings.beginMarker.toList
        settings.endMarker.toList document.toList = some around := by
      rw [← Option.ne_none_iff_exists', ne_eq, surroundings?_eq_none_iff pair]
      exact paired
    obtain ⟨inner, region⟩ := (surroundings?_eq_some_iff_isRegion pair).mp found
    refine ⟨around, inner, region, fun _ _ => region.unique pair, _,
      withoutFinalFeed_spec newSection.toList, ?_⟩
    rw [mergeChars, found]

theorem merge_below_stray_markers :
    let settings : Settings := { beginMarker := " <b>", endMarker := "<e>\n" }
    settings.fault? = none ∧
      IsRegion (trimmed " <b>").toList (trimmed "<e>\n").toList
        "<e>\n<b>\n\t<b>\nold\n<e> \r\nlater".toList
        ⟨"<e>\n<b>\n\t".toList, " \r\nlater".toList⟩ "\nold\n".toList ∧
      (merge " <b>" "<e>\n" "<e>\n<b>\n\t<b>\nold\n<e> \r\nlater" "new\n").toList =
        "<e>\n<b>\n\t".toList ++ "new".toList ++ " \r\nlater".toList := by
  intro settings
  have accepted : settings.fault? = none := by decide +kernel
  have paired : ¬ Unpaired (trimmed " <b>").toList (trimmed "<e>\n").toList
      (fullLines "<e>\n<b>\n\t<b>\nold\n<e> \r\nlater".toList) := by
    decide +kernel
  have region : IsRegion (trimmed " <b>").toList (trimmed "<e>\n").toList
      "<e>\n<b>\n\t<b>\nold\n<e> \r\nlater".toList
      ⟨"<e>\n<b>\n\t".toList, " \r\nlater".toList⟩ "\nold\n".toList :=
    { bracketed :=
        { split := by decide +kernel
          start := ⟨"<e>\n<b>\n".toList, "\t".toList, by decide +kernel⟩
          between := ⟨[], "old\n".toList, [], by decide +kernel⟩
          stop := ⟨" \r".toList, "\nlater".toList, by decide +kernel⟩
          free := by decide +kernel }
      quiet := by decide +kernel }
  obtain ⟨around, inner, -, only, text, shortened, merged⟩ :=
    (merge_replaces_only_region settings accepted _ "new\n").2 paired
  obtain ⟨rfl, rfl⟩ := only _ _ region
  have written : "new\n".toList = "new".toList ++ ['\n'] := by decide +kernel
  have text_eq : text = "new".toList := by
    rcases shortened with feed | ⟨rfl, ends⟩
    · exact List.append_cancel_right (feed.symm.trans written)
    · exact absurd (by decide +kernel) ends
  rw [text_eq] at merged
  exact ⟨accepted, region, merged⟩

end ApiMigration.Report
