import ApiMigration.Proofs.Stub.Undisturbed

namespace ApiMigration.Stub.Scaffold

variable (scaffold : Scaffold) (tree : FileTree) (scoring : Match.Scoring)
  (rules : Match.Classification) (targets : List TargetDeclaration)

theorem isPresent_eq_isSome_best (source : SourceDeclaration) :
    scaffold.isPresent (.ofList targets) source =
      (Match.assess tree scoring rules (.ofList targets) source).best.isSome := by
  have absent : scaffold.isPresent (.ofList targets) source = false ↔
      (Match.assess tree scoring rules (.ofList targets) source).best = none := by
    rw [Match.best_assess_eq_none_iff, Target.Inventory.candidates_ofList, isPresent_ofList,
      List.any_eq_false, List.filter_eq_nil_iff]
  cases best : (Match.assess tree scoring rules (.ofList targets) source).best with
  | none => exact absent.mpr best
  | some target =>
    rw [best] at absent
    simpa using absent

/-- The plan holds one skeleton for each source without a match, in their order, and the count of
present declarations is that of the matches. -/
theorem plan_eq_unmatched (sources : List SourceDeclaration) (root : Path) :
    let inventory := Target.Inventory.ofList targets
    let assessments := Match.assessAll tree scoring rules inventory sources
    let unmatched := (assessments.filter (·.best.isNone)).map Assessment.source
    let matched := (assessments.filter (·.best.isSome)).map Assessment.source
    scaffold.plan sources inventory root = unmatched.map (scaffold.planned root) ∧
      scaffold.presentCount sources inventory = matched.length ∧
      (unmatched ++ matched).Perm sources := by
  intro inventory assessments unmatched matched
  have chosen (kept : Assessment → Bool) :
      (assessments.filter kept).map Assessment.source =
        sources.filter fun source => kept (Match.assess tree scoring rules inventory source) := by
    rw [show assessments = sources.map (Match.assess tree scoring rules inventory) from rfl,
      List.filter_map, List.map_map]
    exact List.map_id _
  have present : matched = sources.filter (scaffold.isPresent inventory) := by
    rw [show matched = _ from chosen _]
    apply List.filter_congr
    intro source _
    exact (scaffold.isPresent_eq_isSome_best tree scoring rules targets source).symm
  have missing :
      unmatched = sources.filter fun source => !scaffold.isPresent inventory source := by
    rw [show unmatched = _ from chosen _]
    apply List.filter_congr
    intro source _
    rw [scaffold.isPresent_eq_isSome_best tree scoring rules targets source, Option.not_isSome]
  refine ⟨?_, ?_, ?_⟩
  · rw [missing, plan]
  · rw [present, presentCount]
  · rw [missing, present]
    exact List.perm_append_comm.trans (List.filter_append_perm _ sources)

end ApiMigration.Stub.Scaffold
