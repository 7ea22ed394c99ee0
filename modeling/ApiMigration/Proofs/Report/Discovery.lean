import ApiMigration.Proofs.Match.Best
import ApiMigration.Proofs.Report.Reordered
import ApiMigration.Proofs.Target.Inventory
import ApiMigration.Report.Matrix

/-!
Reports do not depend on the order in which target declarations are discovered. Another order can
change the kind of a match and the spelling of its origin, and neither a status nor a report shows
these.
-/

namespace ApiMigration

def Assessment.outcome (assessment : Assessment) :
    SourceDeclaration × Status × Option (String × String × List Path.Component) :=
  (assessment.source, assessment.status, assessment.best.map TargetDeclaration.identity)

namespace Match

variable {tree : FileTree} {scoring : Scoring} {rules : Classification}
  {targets permuted : List TargetDeclaration}

theorem statusIn_of_identity {source : SourceDeclaration} {first second : Option TargetDeclaration}
    (same : first.map TargetDeclaration.identity = second.map TargetDeclaration.identity)
    (reads : ∀ a ∈ first, ∀ b ∈ second, a.origin.components = b.origin.components →
      tree.readLossy? a.origin = tree.readLossy? b.origin) :
    rules.statusIn tree source first = rules.statusIn tree source second := by
  cases first with
  | none => rw [Option.map_eq_none_iff.mp same.symm]
  | some a =>
    obtain ⟨b, rfl, equal⟩ := Option.map_eq_some_iff.mp same.symm
    simp only [TargetDeclaration.identity, Prod.mk.injEq] at equal
    have read := reads a rfl b rfl equal.2.2.symm
    rw [Classification.statusIn, Classification.statusIn, Option.bind_some, Option.bind_some, read]
    cases tree.readLossy? b.origin <;> rfl

theorem outcome_assess_of_perm (reordered : targets.Perm permuted)
    (reads : ∀ a ∈ targets, ∀ b ∈ targets, a.origin.components = b.origin.components →
      tree.readLossy? a.origin = tree.readLossy? b.origin) (source : SourceDeclaration) :
    (assess tree scoring rules (.ofList targets) source).outcome =
      (assess tree scoring rules (.ofList permuted) source).outcome := by
  let inventory := Target.Inventory.ofList targets
  let other := Target.Inventory.ofList permuted
  have candidates :
      (inventory.candidates source.name).Perm (other.candidates source.name) := by
    rw [Target.Inventory.candidates_ofList, Target.Inventory.candidates_ofList]
    exact reordered.filter _
  have listed : ∀ candidate ∈ inventory.candidates source.name,
      candidate ∈ targets ∧ candidate.name = source.name := by
    intro candidate member
    rw [Target.Inventory.candidates_ofList, List.mem_filter] at member
    exact ⟨member.1, beq_iff_eq.mp member.2⟩
  have best := Scoring.identity_best?_of_perm scoring source candidates
    fun candidate member => (listed candidate member).2
  -- The two matches may be spelled differently, but both are listed, so they are read alike.
  have read : ∀ a ∈ scoring.best? source (inventory.candidates source.name),
      ∀ b ∈ scoring.best? source (other.candidates source.name),
        a.origin.components = b.origin.components →
          tree.readLossy? a.origin = tree.readLossy? b.origin := by
    intro a first b second
    have chosen := Scoring.mem_of_best? first
    have reached := candidates.mem_iff.mpr (Scoring.mem_of_best? second)
    exact reads a (listed a chosen).1 b (listed b reached).1
  have status : rules.statusIn tree source _ = rules.statusIn tree source _ :=
    statusIn_of_identity best read
  rw [assess, assess, Assessment.outcome, Assessment.outcome, best, status]

end Match

namespace Report

open Assessment

variable {first second : List Assessment}

theorem standing_of_outcomes (same : first.map outcome = second.map outcome) :
    first.map standing = second.map standing := by
  have told := congrArg (List.map fun outcome : SourceDeclaration × Status ×
    Option (String × String × List Path.Component) =>
      (outcome.1.group, outcome.2.1, outcome.1.name)) same
  rwa [List.map_map, List.map_map] at told

theorem groups_of_outcomes (same : first.map outcome = second.map outcome) :
    groups first = groups second :=
  groups_of_standings (.of_eq (standing_of_outcomes same))

theorem outcome_inGroup (assessments : List Assessment) (group : String) :
    (inGroup assessments group).map outcome =
      ((assessments.map outcome).filter fun outcome => outcome.1.group == group).mergeSort
        fun a b => (compare a.1.name b.1.name).isLE := by
  rw [List.filter_map]
  exact List.map_mergeSort fun _ _ _ _ => rfl

theorem entryLine_of_outcome {a b : Assessment} (same : a.outcome = b.outcome) :
    entryLine a = entryLine b := by
  simp only [outcome, Prod.mk.injEq] at same
  obtain ⟨sources, statuses, found⟩ := same
  have names : a.name = b.name := congrArg SourceDeclaration.name sources
  rw [entryLine, entryLine, statuses, names]
  cases one : a.best with
  | none =>
    rw [one] at found
    rw [Option.map_eq_none_iff.mp found.symm]
  | some target =>
    rw [one] at found
    obtain ⟨other, two, equal⟩ := Option.map_eq_some_iff.mp found.symm
    simp only [TargetDeclaration.identity, Prod.mk.injEq] at equal
    rw [two, Option.elim_some, Option.elim_some, TargetDeclaration.qualifiedName,
      TargetDeclaration.qualifiedName, equal.1, equal.2.1]

theorem matrix_of_outcomes (same : first.map outcome = second.map outcome)
    (title rootPackage : String) :
    matrix first title rootPackage = matrix second title rootPackage := by
  have count : first.length = second.length := by
    simpa using congrArg List.length same
  obtain ⟨line, printed⟩ :=
    (Function.factorsThrough_iff entryLine).mp fun _ _ => entryLine_of_outcome
  have lines : groupLines first rootPackage = groupLines second rootPackage := by
    funext group
    rw [groupLines, groupLines, printed, ← List.map_map, ← List.map_map, outcome_inGroup,
      outcome_inGroup, same]
  rw [matrix, matrix, matrixLines, matrixLines, count, groups_of_outcomes same, lines]

/-- Where a file is read by its place alone, the order in which target declarations are listed
changes neither what any source comes to nor a report. -/
theorem reports_eq_of_perm {tree : FileTree} {targets permuted : List TargetDeclaration}
    (reordered : targets.Perm permuted)
    (reads : ∀ a ∈ targets, ∀ b ∈ targets, a.origin.components = b.origin.components →
      tree.readLossy? a.origin = tree.readLossy? b.origin)
    (scoring : Match.Scoring) (rules : Match.Classification) (sources : List SourceDeclaration) :
    let first := Match.assessAll tree scoring rules (.ofList targets) sources
    let second := Match.assessAll tree scoring rules (.ofList permuted) sources
    first.map outcome = second.map outcome ∧
      (∀ title rootPackage, matrix first title rootPackage = matrix second title rootPackage) ∧
      ∀ settings, gapSection first settings = gapSection second settings := by
  intro first second
  have same : first.map outcome = second.map outcome := by
    rw [show first = sources.map _ from rfl, show second = sources.map _ from rfl, List.map_map,
      List.map_map]
    apply List.map_congr_left
    intro source _
    exact Match.outcome_assess_of_perm reordered reads source
  refine ⟨same, matrix_of_outcomes same, ?_⟩
  exact gapSection_of_standings (.of_eq (standing_of_outcomes same))

/-- A class and a struct of one name and package are found in one file, under two spellings of its
path. The one that is listed last is the match. -/
theorem reports_of_two_spellings :
    let tree : FileTree :=
      { entries := [(["lib"], .directory), (["lib", "pair.cj"], .file (FileTree.textBytes "x"))] }
    let pair : SourceDeclaration := ⟨"org.a.tuple", .classType, "Pair", "tuple", ⟨"P.java"⟩, none⟩
    let value : TargetDeclaration := ⟨"lib.tuple", .structType, "Pair", ⟨"/lib/pair.cj"⟩⟩
    let object : TargetDeclaration := ⟨"lib.tuple", .classType, "Pair", ⟨"/lib//pair.cj"⟩⟩
    let utility : TargetDeclaration := ⟨"lib.utils", .classType, "Pair", ⟨"/lib/utils.cj"⟩⟩
    let first := Match.assessAll tree {} {} (.ofList [value, utility, object]) [pair]
    let second := Match.assessAll tree {} {} (.ofList [object, utility, value]) [pair]
    first.map Assessment.best = [some object] ∧ second.map Assessment.best = [some value] ∧
      first.map outcome = second.map outcome ∧ matrix first "" "" = matrix second "" "" ∧
      gapSection first {} = gapSection second {} := by
  intro tree pair value object utility first second
  have reads : ∀ a ∈ [value, utility, object], ∀ b ∈ [value, utility, object],
      a.origin.components = b.origin.components →
        tree.readLossy? a.origin = tree.readLossy? b.origin := by decide +kernel
  obtain ⟨same, matrices, sections⟩ :=
    reports_eq_of_perm (by decide : [value, utility, object].Perm [object, utility, value]) reads
      {} {} [pair]
  refine ⟨?_, ?_, same, matrices "" "", sections {}⟩
  · simp only [first, Match.assessAll, Match.assess, List.map_cons, List.map_nil,
      Target.Inventory.candidates_ofList]
    decide +kernel
  · simp only [second, Match.assessAll, Match.assess, List.map_cons, List.map_nil,
      Target.Inventory.candidates_ofList]
    decide +kernel

end Report

end ApiMigration
