import ApiMigration.Proofs.Report.Grouped
import ApiMigration.Proofs.Report.Refresh
import ApiMigration.Proofs.Report.Reordered
import ApiMigration.Proofs.Source.Extracted
import ApiMigration.Proofs.Text.ByteOrder
import Mathlib.Algebra.GroupWithZero.Nat

/-!
What the gap section says. Its totals, its table and its list are computed apart, and all three
account for the same assessments: the totals count them, every row counts those of its group, every
column adds up to its total, and the list holds each open one once.
-/

namespace ApiMigration

open Std

namespace Tally

theorem get_foldl_add (statuses : List Status) (tally : Tally) (status : Status) :
    (statuses.foldl add tally).get status = tally.get status + statuses.count status := by
  induction statuses generalizing tally with
  | nil => rfl
  | cons next statuses ih =>
    have step : (tally.add next).get status =
        tally.get status + if next == status then 1 else 0 := by
      cases next <;> cases status <;> rfl
    rw [List.foldl_cons, ih, step, List.count_cons]
    omega

theorem total_eq (tally : Tally) :
    tally.total = tally.get .implemented + tally.get .planned + tally.get .subset +
      tally.get .unsupported :=
  rfl

theorem total_foldl_add (statuses : List Status) (tally : Tally) :
    (statuses.foldl add tally).total = tally.total + statuses.length := by
  induction statuses generalizing tally with
  | nil => rfl
  | cons next statuses ih =>
    have step : (tally.add next).total = tally.total + 1 := by
      cases next <;> simp only [add, total] <;> omega
    rw [List.foldl_cons, ih, step, List.length_cons]
    omega

end Tally

namespace Assessment

theorem get_tally (assessments : List Assessment) (status : Status) :
    (tally assessments).get status =
      assessments.countP fun assessment => assessment.status == status := by
  have none : ({} : Tally).get status = 0 := by cases status <;> rfl
  rw [tally, Tally.ofList, Tally.get_foldl_add, none, Nat.zero_add, List.count, List.countP_map]
  rfl

theorem total_tally (assessments : List Assessment) :
    (tally assessments).total = assessments.length := by
  rw [tally, Tally.ofList, Tally.total_foldl_add, List.length_map]
  exact Nat.zero_add _

theorem countP_inGroup (kept : Assessment → Bool) (assessments : List Assessment)
    (group : String) :
    (inGroup assessments group).countP kept =
      assessments.countP fun assessment => kept assessment && assessment.group == group := by
  rw [inGroup, (List.mergeSort_perm _ _).countP_eq, List.countP_filter]

theorem sum_countP_inGroup (kept : Assessment → Bool) (assessments : List Assessment) :
    ((groups assessments).map fun group => (inGroup assessments group).countP kept).sum =
      assessments.countP kept := by
  rw [← (listed_perm assessments).countP_eq, ← flatMap_inGroup, List.countP_flatMap]
  rfl

end Assessment

namespace Report

open Assessment Text

structure Row where
  group : String
  counts : Status → Nat
  sum : Nat

def Row.label (row : Row) : String :=
  if row.group = "" then "(root)" else row.group

def Row.line (row : Row) : String :=
  "| " ++ row.label ++ " | " ++ toString (row.counts .implemented) ++ " | "
    ++ toString (row.counts .planned) ++ " | " ++ toString (row.counts .subset) ++ " | "
    ++ toString (row.counts .unsupported) ++ " | " ++ toString row.sum ++ " |"

structure Overview where
  total : Nat
  totals : Status → Nat
  rows : List Row
  items : List Assessment

namespace Overview

def itemLines (overview : Overview) : List String :=
  if overview.items.isEmpty then ["- none"]
  else overview.items.map fun item =>
    "- " ++ item.status.glyph ++ " " ++ (if item.group = "" then "root" else item.group) ++ "."
      ++ item.name

def lines (overview : Overview) : List String :=
  ["", "## Migration gaps (generated)", "", "- Declarations: " ++ toString overview.total,
    "- ✅ implemented: " ++ toString (overview.totals .implemented),
    "- 🟡 planned: " ++ toString (overview.totals .planned),
    "- ⚠️ subset: " ++ toString (overview.totals .subset),
    "- ⛔ unsupported: " ++ toString (overview.totals .unsupported),
    "", "### By package", "", "| package | ✅ | 🟡 | ⚠️ | ⛔ | total |",
    "|---|---:|---:|---:|---:|---:|"]
    ++ overview.rows.map Row.line ++ ["", "### Not yet implemented", ""] ++ overview.itemLines
    ++ [""]

/-- Whether an open declaration may stand above another: by group, by status, by name. -/
def Above (item other : Assessment) : Prop :=
  encode item.group.toList < encode other.group.toList ∨ item.group = other.group ∧
    (item.status.rank < other.status.rank ∨ item.status = other.status ∧
      ¬encode other.name.toList < encode item.name.toList)

structure Accounts (overview : Overview) (assessments : List Assessment) : Prop where
  total : overview.total = assessments.length
  totals : ∀ status, overview.totals status =
    assessments.countP fun assessment => assessment.status == status
  oneRow : (overview.rows.map Row.group).Nodup
  everyRow : ∀ group, group ∈ overview.rows.map Row.group ↔
    ∃ assessment ∈ assessments, assessment.group = group
  increasing : overview.rows.Pairwise fun row other =>
    encode row.label.toList < encode other.label.toList
  rootFirst : ∀ row ∈ overview.rows, row.label = "(root)" → overview.rows.head? = some row
  counts : ∀ row ∈ overview.rows, ∀ status, row.counts status =
    assessments.countP fun assessment =>
      assessment.status == status && assessment.group == row.group
  sum : ∀ row ∈ overview.rows, row.sum = row.counts .implemented + row.counts .planned +
    row.counts .subset + row.counts .unsupported
  column : ∀ status, (overview.rows.map fun row => row.counts status).sum = overview.totals status
  lastColumn : (overview.rows.map Row.sum).sum = overview.total
  items : overview.items.Perm
    (assessments.filter fun assessment => assessment.status != .implemented)
  sorted : overview.items.Pairwise Above
  none : overview.itemLines = ["- none"] ↔
    ∀ assessment ∈ assessments, assessment.status = .implemented

end Overview

def rowOf (assessments : List Assessment) (group : String) : Row where
  group := group
  counts status := (inGroup assessments group).countP fun assessment => assessment.status == status
  sum := (inGroup assessments group).length

def overviewOf (assessments : List Assessment) : Overview where
  total := assessments.length
  totals status := assessments.countP fun assessment => assessment.status == status
  rows := (groups assessments).map (rowOf assessments)
  items := openEntries assessments

theorem tableRow_eq (a b c d e f : String) :
    tableRow [a, b, c, d, e, f] =
      "| " ++ a ++ " | " ++ b ++ " | " ++ c ++ " | " ++ d ++ " | " ++ e ++ " | " ++ f ++ " |" := by
  apply String.toList_inj.mp
  simp [tableRow]

theorem groupRow_eq (assessments : List Assessment) (group : String) :
    groupRow assessments group = (rowOf assessments group).line := by
  simp only [groupRow, total_tally, get_tally]
  exact tableRow_eq _ _ _ _ _ _

theorem openLines_eq_itemLines (assessments : List Assessment) :
    openLines assessments = (overviewOf assessments).itemLines := by
  rw [openLines, Overview.itemLines, overviewOf]
  cases openEntries assessments <;> rfl

theorem totalLines_eq (assessments : List Assessment) :
    Status.all.map (totalLine (tally assessments)) =
      ["- ✅ implemented: " ++ toString ((overviewOf assessments).totals .implemented),
        "- 🟡 planned: " ++ toString ((overviewOf assessments).totals .planned),
        "- ⚠️ subset: " ++ toString ((overviewOf assessments).totals .subset),
        "- ⛔ unsupported: " ++ toString ((overviewOf assessments).totals .unsupported)] := by
  simp only [Status.all, List.map_cons, List.map_nil, totalLine, get_tally, overviewOf]
  rfl

theorem gapBody_eq (assessments : List Assessment) :
    gapBody assessments = (overviewOf assessments).lines := by
  have rows : (groups assessments).map (groupRow assessments) =
      (overviewOf assessments).rows.map Row.line := by
    rw [overviewOf, List.map_map]
    exact List.map_congr_left fun group _ => groupRow_eq assessments group
  have heading : tableRow (["package"] ++ Status.all.map Status.glyph ++ ["total"]) =
      "| package | ✅ | 🟡 | ⚠️ | ⛔ | total |" :=
    tableRow_eq _ _ _ _ _ _
  rw [gapBody, totalLines_eq, rows, heading, openLines_eq_itemLines, total_tally]
  rfl

theorem toList_join_feed (lines : List String) :
    (String.join (lines.map (· ++ "\n"))).toList = feedLines lines := by
  rw [String.toList_join, List.flatMap_map, feedLines]
  simp

theorem gapSection_eq (assessments : List Assessment) (settings : Settings) :
    gapSection assessments settings =
      settings.beginMarker ++ "\n" ++
        String.join ((overviewOf assessments).lines.map (· ++ "\n")) ++ settings.endMarker ++
        "\n" := by
  apply String.toList_inj.mp
  have feed : "\n".toList = ['\n'] := by decide
  simp only [toList_gapSection, gapBody_eq, String.toList_append, toList_join_feed, feed,
    List.append_assoc, List.cons_append, List.nil_append]

section Order

instance : TransCmp openOrder :=
  inferInstanceAs (TransCmp (compareLex (compareOn Assessment.group)
    (compareLex (compareOn fun assessment => assessment.status.rank)
      (compareOn Assessment.name))))

theorem isLE_compare_iff_encode {text other : String} :
    (compare text other).isLE = true ↔ ¬encode other.toList < encode text.toList := by
  rw [LawfulBCmp.isLE_iff_le, ← String.not_lt, encode_lt_encode_iff, String.lt_iff_toList_lt]

theorem openOrder_isLE_iff {item other : Assessment} :
    (openOrder item other).isLE = true ↔ Overview.Above item other := by
  simp only [openOrder, Overview.Above, Ordering.isLE_then_iff_or, compare_lt_iff_lt,
    Std.compare_eq_iff_eq, isLE_compare_iff_encode, Status.rank_injective.eq_iff,
    encode_lt_encode_iff, String.lt_iff_toList_lt]

theorem parenthesis_lt_below : ∀ code < 128, isPackageChar (Char.ofNat code) = true →
    '(' < Char.ofNat code := by
  decide +kernel

theorem parenthesis_lt {c : Char} (allowed : isPackageChar c = true) : '(' < c := by
  have ascii : c.toNat < 128 := by
    have either := allowed
    rw [isPackageChar, Bool.or_eq_true, beq_iff_eq] at either
    rcases either with named | rfl
    · exact toNat_lt_of_isNameChar named
    · decide
  have below := parenthesis_lt_below c.toNat ascii
  rw [Char.ofNat_toNat] at below
  exact below allowed

theorem groupLabel_lt {group other : String} (less : group < other)
    (allowed : ∀ c ∈ other.toList, isPackageChar c = true) :
    groupLabel group < groupLabel other := by
  have solid : other ≠ "" := by
    rintro rfl
    exact List.not_lt_nil _ (String.lt_iff_toList_lt.mp less)
  rw [groupLabel, groupLabel, if_neg solid]
  split
  · -- The label of the root is longer than its empty name, so its first character has to decide.
    rw [String.lt_iff_toList_lt]
    cases letters : other.toList with
    | nil => exact absurd (String.toList_eq_nil_iff.mp letters) solid
    | cons c rest =>
      rw [letters] at allowed
      exact List.cons_lt_cons_iff.mpr (.inl (parenthesis_lt (allowed c List.mem_cons_self)))
  · exact less

end Order

section Accounts

variable {assessments : List Assessment}

theorem itemLines_eq_none_iff (overview : Overview) :
    overview.itemLines = ["- none"] ↔ overview.items = [] := by
  rw [Overview.itemLines]
  cases overview.items with
  | nil => simp
  | cons item items =>
    simp only [List.isEmpty_cons, Bool.false_eq_true, if_false, List.map_cons, List.cons.injEq,
      reduceCtorEq, iff_false, not_and]
    intro same
    have third := congrArg (fun line => line.toList[2]?) same
    cases status : item.status <;> simp [status, Status.glyph] at third

theorem openEntries_eq_nil_iff :
    openEntries assessments = [] ↔
      ∀ assessment ∈ assessments, assessment.status = .implemented := by
  rw [← List.length_eq_zero_iff, openEntries, List.length_mergeSort, List.length_eq_zero_iff,
    List.filter_eq_nil_iff]
  simp

theorem pairwise_rows
    (grouped : ∀ assessment ∈ assessments, ∀ c ∈ assessment.group.toList, isPackageChar c = true) :
    ((groups assessments).map (rowOf assessments)).Pairwise fun row other =>
      encode row.label.toList < encode other.label.toList := by
  rw [List.pairwise_map]
  apply (pairwise_lt_groups assessments).imp_of_mem
  intro group other _ member less
  obtain ⟨assessment, present, rfl⟩ := mem_groups_iff.mp member
  rw [encode_lt_encode_iff, ← String.lt_iff_toList_lt]
  exact groupLabel_lt less (grouped assessment present)

theorem head?_rows
    (grouped : ∀ assessment ∈ assessments, ∀ c ∈ assessment.group.toList, isPackageChar c = true)
    {row : Row} (listed : row ∈ (groups assessments).map (rowOf assessments))
    (root : row.label = "(root)") :
    ((groups assessments).map (rowOf assessments)).head? = some row := by
  obtain ⟨group, member, rfl⟩ := List.mem_map.mp listed
  have empty : group = "" := by
    obtain ⟨assessment, present, rfl⟩ := mem_groups_iff.mp member
    rw [Row.label] at root
    split at root
    · next same => exact same
    · have letters := grouped assessment present
      rw [show assessment.group = "(root)" from root] at letters
      exact absurd (letters '(' (by decide)) (by decide)
  subst empty
  rw [List.head?_map, head?_groups member, Option.map_some]

theorem overviewOf_accounts
    (grouped : ∀ assessment ∈ assessments, ∀ c ∈ assessment.group.toList, isPackageChar c = true) :
    (overviewOf assessments).Accounts assessments := by
  have members : (overviewOf assessments).rows.map Row.group = groups assessments := by
    rw [overviewOf, List.map_map]
    exact List.map_id _
  have each : ∀ row ∈ (overviewOf assessments).rows, ∃ group, row = rowOf assessments group := by
    intro row member
    obtain ⟨group, -, rfl⟩ := List.mem_map.mp member
    exact ⟨group, rfl⟩
  refine
    { total := rfl
      totals := fun _ => rfl
      oneRow := members ▸ nodup_groups assessments
      everyRow := fun group => members ▸ mem_groups_iff
      increasing := pairwise_rows grouped
      rootFirst := fun row member => head?_rows grouped member
      counts := ?counts
      sum := ?sum
      column := ?column
      lastColumn := ?lastColumn
      items := ?items
      sorted := ?sorted
      none := ?none }
  case counts =>
    intro row member status
    obtain ⟨group, rfl⟩ := each row member
    exact countP_inGroup _ assessments group
  case sum =>
    intro row member
    obtain ⟨group, rfl⟩ := each row member
    have whole := Tally.total_eq (tally (inGroup assessments group))
    simp only [total_tally, get_tally] at whole
    exact whole
  case column =>
    intro status
    rw [overviewOf, List.map_map]
    exact sum_countP_inGroup _ assessments
  case lastColumn =>
    -- A row's sum counts whatever stands in its group.
    have whole := sum_countP_inGroup (fun _ => true) assessments
    simpa [overviewOf, Function.comp_def, rowOf] using whole
  case items => exact List.mergeSort_perm _ _
  case sorted =>
    exact (pairwise_mergeSort openOrder _).imp openOrder_isLE_iff.mp
  case none =>
    rw [itemLines_eq_none_iff]
    exact openEntries_eq_nil_iff

theorem oneLine_of_isPackageChar {text : String}
    (allowed : ∀ c ∈ text.toList, isPackageChar c = true) : OneLine text :=
  not_mem_of_refused allowed (by decide)

end Accounts

/-- Every number and list of the section accounts for the assessments, line by line of its text. -/
theorem gapSection_accounts (settings : Settings) {assessments : List Assessment}
    (named : ∀ assessment ∈ assessments, IsIdentifier assessment.name.toList)
    (grouped : ∀ assessment ∈ assessments, ∀ c ∈ assessment.group.toList, isPackageChar c = true) :
    ∃ overview : Overview,
      gapSection assessments settings =
          settings.beginMarker ++ "\n" ++ String.join (overview.lines.map (· ++ "\n")) ++
            settings.endMarker ++ "\n" ∧
        (∀ line ∈ overview.lines, OneLine line) ∧ overview.Accounts assessments := by
  refine ⟨overviewOf assessments, gapSection_eq assessments settings, ?_,
    overviewOf_accounts grouped⟩
  rw [← gapBody_eq]
  apply oneLine_gapBody
  intro assessment member
  exact ⟨Source.feed_not_mem_of_isIdentifier (named assessment member),
    oneLine_of_isPackageChar (grouped assessment member)⟩

theorem gapSection_accounts_mixed :
    let pair : SourceDeclaration := ⟨"org.a.tuple", .classType, "Pair", "tuple", ⟨"P.java"⟩, none⟩
    let bits : SourceDeclaration := ⟨"org.a", .classType, "BitField", "", ⟨"B.java"⟩, none⟩
    let clock : SourceDeclaration := ⟨"org.a.time", .enumType, "Clock", "time", ⟨"C.java"⟩, none⟩
    let assessments : List Assessment :=
      [⟨pair, none, .planned⟩, ⟨bits, none, .implemented⟩, ⟨clock, none, .subset⟩,
        ⟨pair, none, .planned⟩, ⟨bits, none, .unsupported⟩]
    (∀ assessment ∈ assessments, IsIdentifier assessment.name.toList) ∧
      (∀ assessment ∈ assessments, ∀ c ∈ assessment.group.toList, isPackageChar c = true) ∧
      ∃ overview : Overview,
        gapSection assessments {} =
            "<!-- AUTO-GENERATED:LANG3-GAPS:BEGIN -->" ++ "\n" ++
              String.join (overview.lines.map (· ++ "\n")) ++
              "<!-- AUTO-GENERATED:LANG3-GAPS:END -->" ++ "\n" ∧
          (∀ line ∈ overview.lines, OneLine line) ∧ overview.Accounts assessments := by
  intro pair bits clock assessments
  have named : ∀ assessment ∈ assessments, IsIdentifier assessment.name.toList := by decide
  have grouped : ∀ assessment ∈ assessments,
      ∀ c ∈ assessment.group.toList, isPackageChar c = true := by decide
  exact ⟨named, grouped, gapSection_accounts {} named grouped⟩

end Report

end ApiMigration
