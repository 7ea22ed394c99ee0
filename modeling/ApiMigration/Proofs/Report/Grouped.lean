import ApiMigration.Assessment
import ApiMigration.Proofs.Sorted
import Mathlib.Data.String.Basic

namespace ApiMigration

open Std

namespace Assessment

variable {assessments : List Assessment} {assessment : Assessment} {group : String}

theorem mem_groups_iff :
    group ∈ groups assessments ↔ ∃ assessment ∈ assessments, assessment.group = group := by
  rw [groups, List.mem_mergeSort, List.mem_eraseDups, List.mem_map]

theorem mem_inGroup_iff :
    assessment ∈ inGroup assessments group ↔
      assessment ∈ assessments ∧ assessment.group = group := by
  rw [inGroup, List.mem_mergeSort, List.mem_filter, beq_iff_eq]

theorem nodup_groups (assessments : List Assessment) : (groups assessments).Nodup :=
  (List.mergeSort_perm _ _).nodup_iff.mpr (nodup_eraseDups _)

theorem pairwise_lt_groups (assessments : List Assessment) :
    (groups assessments).Pairwise (· < ·) := by
  have ordered := pairwise_mergeSort compare (assessments.map Assessment.group).eraseDups
  have distinct := List.nodup_iff_pairwise_ne.mp (nodup_groups assessments)
  apply (ordered.and distinct).imp
  intro a b both
  exact Std.lt_of_le_of_ne (LawfulBCmp.isLE_iff_le.mp both.1) both.2

theorem head?_groups (member : "" ∈ groups assessments) :
    (groups assessments).head? = some "" := by
  have ordered := pairwise_lt_groups assessments
  cases all : groups assessments with
  | nil =>
    rw [all] at member
    cases member
  | cons first more =>
    rw [all] at member ordered
    rcases List.mem_cons.mp member with same | later
    · rw [same, List.head?_cons]
    · have less := (List.pairwise_cons.mp ordered).1 "" later
      exact absurd (String.lt_iff_toList_lt.mp less) (List.not_lt_nil _)

def listOrder (a b : Assessment) : Ordering :=
  (compare a.group b.group).then (compare a.name b.name)

instance : TransCmp listOrder :=
  inferInstanceAs (TransCmp (compareLex (compareOn Assessment.group) (compareOn Assessment.name)))

theorem listOrder_of_group_eq {a b : Assessment} (same : a.group = b.group) :
    listOrder a b = compare a.name b.name := by
  rw [listOrder, Std.compare_eq_iff_eq.mpr same, Ordering.eq_then]

theorem listOrder_of_group_lt {a b : Assessment} (less : a.group < b.group) :
    listOrder a b = .lt := by
  rw [listOrder, compare_lt_iff_lt.mpr less, Ordering.lt_then]

theorem listOrder_eq_eq_iff {a b : Assessment} :
    listOrder a b = .eq ↔ a.group = b.group ∧ a.name = b.name := by
  rw [listOrder, Ordering.then_eq_eq, Std.compare_eq_iff_eq, Std.compare_eq_iff_eq]

/-- All assessments in the order of a listing; ties stay as they stood. -/
def listed (assessments : List Assessment) : List Assessment :=
  assessments.mergeSort fun a b => (listOrder a b).isLE

theorem listed_perm (assessments : List Assessment) : (listed assessments).Perm assessments :=
  List.mergeSort_perm _ _

theorem map_name_inGroup_of_perm {others : List Assessment} (reordered : assessments.Perm others)
    (group : String) :
    (inGroup assessments group).map name = (inGroup others group).map name := by
  have sorted (items : List Assessment) : (inGroup items group).map name =
      ((items.filter fun item => item.group == group).map name).mergeSort
        fun a b => (compare a b).isLE :=
    List.map_mergeSort fun _ _ _ _ => rfl
  rw [sorted, sorted]
  exact mergeSort_eq_of_perm compare ((reordered.filter _).map name)

theorem filter_inGroup_tied (assessments : List Assessment) (item : Assessment) (group : String) :
    ((inGroup assessments group).filter fun other => listOrder item other == .eq) =
      if group = item.group then assessments.filter fun other => listOrder item other == .eq
      else [] := by
  split
  · next own =>
    have tied : ∀ other ∈ inGroup assessments group, (listOrder item other == .eq) =
        (compareOn Assessment.name item other == .eq) := by
      intro other member
      rw [listOrder_of_group_eq (own.symm.trans (mem_inGroup_iff.mp member).2.symm)]
      rfl
    rw [List.filter_congr tied, inGroup]
    refine (filter_mergeSort_tied (compareOn Assessment.name) _ item).trans ?_
    rw [List.filter_filter]
    apply List.filter_congr
    intro other _
    rw [own, Bool.eq_iff_iff]
    simp only [Bool.and_eq_true, beq_iff_eq, compareOn, Std.compare_eq_iff_eq, listOrder_eq_eq_iff]
    exact ⟨fun held => ⟨held.2.symm, held.1⟩, fun held => ⟨held.2, held.1.symm⟩⟩
  · next other =>
    rw [List.filter_eq_nil_iff]
    intro assessment member tied
    have same := (listOrder_eq_eq_iff.mp (beq_iff_eq.mp tied)).1
    exact other ((mem_inGroup_iff.mp member).2.symm.trans same.symm)

theorem flatMap_filter_inGroup_tied (assessments : List Assessment) (item : Assessment) :
    ((groups assessments).flatMap fun group =>
        (inGroup assessments group).filter fun other => listOrder item other == .eq) =
      assessments.filter fun other => listOrder item other == .eq := by
  simp only [filter_inGroup_tied]
  have distinct := nodup_groups assessments
  by_cases present : item.group ∈ groups assessments
  · obtain ⟨before, after, cut⟩ := List.append_of_mem present
    rw [cut, List.nodup_append] at distinct
    have nothing : ∀ part : List String, item.group ∉ part → (part.flatMap fun group =>
        if group = item.group then assessments.filter fun other => listOrder item other == .eq
        else []) = [] := by
      intro part absent
      rw [List.flatMap_eq_nil_iff]
      intro group member
      apply if_neg
      rintro rfl
      exact absent member
    have first : item.group ∉ before := fun member =>
      distinct.2.2 _ member _ List.mem_cons_self rfl
    have last : item.group ∉ after := (List.nodup_cons.mp distinct.2.1).1
    rw [cut, List.flatMap_append, List.flatMap_cons, nothing before first, nothing after last,
      if_pos rfl, List.nil_append, List.append_nil]
  · have empty : (assessments.filter fun other => listOrder item other == .eq) = [] := by
      rw [List.filter_eq_nil_iff]
      intro assessment member tied
      have same := (listOrder_eq_eq_iff.mp (beq_iff_eq.mp tied)).1
      exact present (mem_groups_iff.mpr ⟨assessment, member, same.symm⟩)
    rw [empty, List.flatMap_eq_nil_iff]
    intro group _
    exact ite_self []

theorem flatMap_inGroup (assessments : List Assessment) :
    (groups assessments).flatMap (inGroup assessments) = listed assessments := by
  apply eq_of_sorted_of_tied listOrder _ (pairwise_mergeSort listOrder assessments)
  · intro item
    rw [List.filter_flatMap, flatMap_filter_inGroup_tied, filter_mergeSort_tied]
  · rw [List.pairwise_flatMap]
    constructor
    · intro group _
      apply (pairwise_mergeSort (compareOn Assessment.name) _).imp_of_mem
      intro a b first second ordered
      rw [listOrder_of_group_eq]
      · exact ordered
      · exact (mem_inGroup_iff.mp first).2.trans (mem_inGroup_iff.mp second).2.symm
    · apply (pairwise_lt_groups assessments).imp
      intro group other less a first b second
      rw [← (mem_inGroup_iff.mp first).2, ← (mem_inGroup_iff.mp second).2] at less
      rw [listOrder_of_group_lt less]
      rfl

end Assessment

end ApiMigration
