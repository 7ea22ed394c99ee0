import ApiMigration.Proofs.Sorted
import ApiMigration.Report.Gap

namespace ApiMigration

open Std

theorem Status.rank_injective : Function.Injective Status.rank := by
  intro a b same
  cases a <;> cases b <;> simp_all [Status.rank]

theorem Tally.ofList_perm {first second : List Status} (reordered : first.Perm second) :
    Tally.ofList first = Tally.ofList second := by
  have commutes : RightCommutative Tally.add := by
    constructor
    intro tally a b
    cases a <;> cases b <;> rfl
  exact reordered.foldl_eq _

namespace Assessment

variable {first second : List Assessment}

/-- What the gap section tells of a source: its group, its status and its name. -/
def standing (assessment : Assessment) : String × Status × String :=
  (assessment.group, assessment.status, assessment.name)

theorem tally_of_standings (same : (first.map standing).Perm (second.map standing)) :
    tally first = tally second := by
  have statuses := same.map fun standing => standing.2.1
  rw [List.map_map, List.map_map] at statuses
  exact Tally.ofList_perm statuses

theorem groups_of_standings (same : (first.map standing).Perm (second.map standing)) :
    groups first = groups second := by
  have listed := same.map Prod.fst
  rw [List.map_map, List.map_map] at listed
  exact mergeSort_eq_of_perm compare (eraseDups_perm listed)

theorem filter_standing (kept : String × Status × String → Bool)
    (same : (first.map standing).Perm (second.map standing)) :
    ((first.filter fun assessment => kept assessment.standing).map standing).Perm
      ((second.filter fun assessment => kept assessment.standing).map standing) := by
  have chosen := same.filter kept
  rwa [List.filter_map, List.filter_map] at chosen

theorem tally_inGroup_of_standings (same : (first.map standing).Perm (second.map standing))
    (group : String) : tally (inGroup first group) = tally (inGroup second group) := by
  have sorted (assessments : List Assessment) : ((inGroup assessments group).map standing).Perm
      ((assessments.filter fun assessment => assessment.group == group).map standing) :=
    (List.mergeSort_perm _ _).map standing
  apply tally_of_standings
  have chosen := filter_standing (fun standing => standing.1 == group) same
  exact (sorted first).trans (chosen.trans (sorted second).symm)

end Assessment

namespace Report

open Assessment

variable {first second : List Assessment}

def standingOrder : String × Status × String → String × Status × String → Ordering :=
  compareLex (compareOn Prod.fst)
    (compareLex (compareOn fun standing => standing.2.1.rank)
      (compareOn fun standing => standing.2.2))

instance : TransCmp standingOrder :=
  inferInstanceAs (TransCmp (compareLex _ (compareLex _ _)))

instance : LawfulEqCmp standingOrder where
  eq_of_compare := by
    intro a b equal
    rw [standingOrder, compareLex_eq_eq, compareLex_eq_eq] at equal
    have ranks : a.2.1.rank = b.2.1.rank := LawfulEqCmp.eq_of_compare equal.2.1
    exact Prod.ext (LawfulEqCmp.eq_of_compare equal.1)
      (Prod.ext (Status.rank_injective ranks) (LawfulEqCmp.eq_of_compare equal.2.2))

theorem standing_openEntries (assessments : List Assessment) :
    (openEntries assessments).map standing =
      ((assessments.filter fun assessment => assessment.status != .implemented).map
        standing).mergeSort fun a b => (standingOrder a b).isLE :=
  List.map_mergeSort fun _ _ _ _ => rfl

theorem openLine_of_standing {a b : Assessment} (same : a.standing = b.standing) :
    openLine a = openLine b := by
  simp only [standing, Prod.mk.injEq] at same
  rw [openLine, openLine, same.1, same.2.1, same.2.2]

theorem openLines_eq (assessments : List Assessment) :
    openLines assessments =
      let lines := (openEntries assessments).map openLine
      if lines = [] then ["- none"] else lines := by
  rw [openLines]
  cases openEntries assessments <;> rfl

theorem openLines_of_standings (same : (first.map standing).Perm (second.map standing)) :
    openLines first = openLines second := by
  have chosen := filter_standing (fun standing => standing.2.1 != .implemented) same
  have entries : (openEntries first).map standing = (openEntries second).map standing := by
    rw [standing_openEntries, standing_openEntries]
    exact mergeSort_eq_of_perm standingOrder chosen
  -- Entries with equal keys can trade places, so only what is printed of them is compared.
  obtain ⟨line, printed⟩ :=
    (Function.factorsThrough_iff openLine).mp fun _ _ => openLine_of_standing
  rw [openLines_eq, openLines_eq, printed, ← List.map_map, ← List.map_map, entries]

theorem gapSection_of_standings (same : (first.map standing).Perm (second.map standing))
    (settings : Settings) : gapSection first settings = gapSection second settings := by
  have rows : (groups first).map (groupRow first) = (groups second).map (groupRow second) := by
    rw [groups_of_standings same]
    apply List.map_congr_left
    intro group _
    rw [groupRow, groupRow, tally_inGroup_of_standings same]
  rw [gapSection, gapSection, gapLines, gapLines, gapBody, gapBody, rows, tally_of_standings same,
    openLines_of_standings same]

/-- The gap section does not depend on the order of the sources. -/
theorem gapSection_eq_of_perm (reordered : first.Perm second) (settings : Settings) :
    gapSection first settings = gapSection second settings :=
  gapSection_of_standings (reordered.map standing) settings

theorem gapSection_of_duplicates :
    let pair : SourceDeclaration := ⟨"org.a.tuple", .classType, "Pair", "tuple", ⟨"P.java"⟩, none⟩
    let moved : SourceDeclaration := { pair with origin := ⟨"Q.java"⟩ }
    let bits : SourceDeclaration := ⟨"org.a", .classType, "BitField", "", ⟨"B.java"⟩, none⟩
    let target : TargetDeclaration := ⟨"lib.tuple", .classType, "Pair", ⟨"src/pair.cj"⟩⟩
    let first : List Assessment :=
      [⟨pair, some target, .planned⟩, ⟨bits, none, .planned⟩, ⟨moved, none, .planned⟩,
        ⟨bits, none, .planned⟩, ⟨pair, some target, .implemented⟩]
    let second : List Assessment :=
      [⟨bits, none, .planned⟩, ⟨pair, some target, .implemented⟩, ⟨moved, none, .planned⟩,
        ⟨pair, some target, .planned⟩, ⟨bits, none, .planned⟩]
    first.Perm second ∧ gapSection first {} = gapSection second {} := by
  intro pair moved bits target first second
  have reordered : first.Perm second := by decide
  exact ⟨reordered, gapSection_eq_of_perm reordered {}⟩

end Report

end ApiMigration
