import ApiMigration.Match.Assess

namespace ApiMigration.Match

theorem Scoring.foldl_prefer_mem (scoring : Scoring) (source : SourceDeclaration)
    (first : TargetDeclaration) (more : List TargetDeclaration) :
    more.foldl (scoring.prefer source) first ∈ first :: more := by
  induction more generalizing first with
  | nil => exact List.mem_cons_self
  | cons next more ih =>
    rw [List.foldl_cons]
    have chosen : scoring.prefer source first next = first ∨
        scoring.prefer source first next = next := by
      unfold prefer
      split
      · exact .inl rfl
      · exact .inr rfl
    rcases chosen with chosen | chosen
    · rw [chosen]
      rcases List.mem_cons.mp (ih first) with same | member
      · rw [same]
        exact List.mem_cons_self
      · exact List.mem_cons_of_mem _ (List.mem_cons_of_mem _ member)
    · rw [chosen]
      exact List.mem_cons_of_mem _ (ih next)

theorem Scoring.mem_of_best? {scoring : Scoring} {source : SourceDeclaration}
    {candidates : List TargetDeclaration} {best : TargetDeclaration}
    (chosen : scoring.best? source candidates = some best) : best ∈ candidates := by
  cases candidates with
  | nil => cases chosen
  | cons first more =>
    cases chosen
    exact foldl_prefer_mem scoring source first more

theorem Scoring.best?_eq_none_iff {scoring : Scoring} {source : SourceDeclaration}
    {candidates : List TargetDeclaration} :
    scoring.best? source candidates = none ↔ candidates = [] := by
  cases candidates <;> simp [best?]

theorem assess_eq {before after : FileTree} {inventory later : Target.Inventory}
    {source : SourceDeclaration} {scoring : Scoring} {rules : Classification}
    (same : later.candidates source.name = inventory.candidates source.name)
    (read : ∀ target ∈ inventory.candidates source.name,
      after.readLossy? target.origin = before.readLossy? target.origin) :
    assess after scoring rules later source = assess before scoring rules inventory source := by
  have status : rules.statusIn after source
        (scoring.best? source (inventory.candidates source.name)) =
      rules.statusIn before source
        (scoring.best? source (inventory.candidates source.name)) := by
    cases chosen : scoring.best? source (inventory.candidates source.name) with
    | none => rfl
    | some target =>
      simp only [Classification.statusIn, Option.bind_some, read target (Scoring.mem_of_best? chosen)]
  simp only [assess, same, status]

theorem status_assess (tree : FileTree) {scoring : Scoring} {rules : Classification}
    {inventory : Target.Inventory} {source : SourceDeclaration} {target : TargetDeclaration}
    (best : scoring.best? source (inventory.candidates source.name) = some target)
    (free : rules.overrides.lookup source.name = none) :
    (assess tree scoring rules inventory source).status =
      rules.statusIn tree source (some target) := by
  simp only [assess, best, Classification.override, free, Option.getD_none]

theorem best_assess_eq_none_iff {tree : FileTree} {scoring : Scoring} {rules : Classification}
    {inventory : Target.Inventory} {source : SourceDeclaration} :
    (assess tree scoring rules inventory source).best = none ↔
      inventory.candidates source.name = [] :=
  Scoring.best?_eq_none_iff

end ApiMigration.Match
