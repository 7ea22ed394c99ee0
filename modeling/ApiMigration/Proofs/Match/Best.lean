import ApiMigration.Proofs.Match.Assess
import ApiMigration.Proofs.Path.Order

/-!
The best candidate is one that no other candidate is preferred to. Among candidates of one name
preference tells apart everything but the kind and the spelling of the origin, so the order in which
the candidates are listed makes no further difference.
-/

namespace ApiMigration

open Std

/-- Where a target declaration is: its package, its name and the place of its file. -/
def TargetDeclaration.identity (declaration : TargetDeclaration) :
    String × String × List Path.Component :=
  (declaration.package, declaration.name, declaration.origin.components)

namespace Match.Scoring

variable {scoring : Scoring} {source : SourceDeclaration} {a b best : TargetDeclaration}
  {candidates others : List TargetDeclaration}

instance : TransCmp fun a b : TargetDeclaration => a.origin.compare b.origin where
  eq_swap := OrientedCmp.eq_swap
  isLE_trans := TransCmp.isLE_trans

instance : TransCmp (scoring.preference source) := by
  let size (candidate : TargetDeclaration) : Nat := candidate.package.utf8ByteSize
  have shorter : TransCmp fun a b => compareOn size b a := TransCmp.opposite
  exact inferInstanceAs (TransCmp
    (compareLex (compareOn fun candidate => (scoring.score source candidate).points)
      (compareLex (fun a b => compareOn size b a)
        (compareLex (compareOn TargetDeclaration.qualifiedName)
          fun a b => a.origin.compare b.origin))))

theorem isLE_prefer (scoring : Scoring) (source : SourceDeclaration)
    (earlier later : TargetDeclaration) :
    (scoring.preference source earlier (scoring.prefer source earlier later)).isLE = true ∧
      (scoring.preference source later (scoring.prefer source earlier later)).isLE = true := by
  by_cases first : scoring.preference source earlier later = .gt
  · rw [prefer, if_pos first]
    have after : scoring.preference source later earlier = .lt := OrientedCmp.lt_of_gt first
    exact ⟨ReflCmp.isLE_rfl, by rw [after]; rfl⟩
  · rw [prefer, if_neg first]
    exact ⟨Ordering.isLE_iff_ne_gt.mpr first, ReflCmp.isLE_rfl⟩

theorem isLE_foldl_prefer (scoring : Scoring) (source : SourceDeclaration)
    (first : TargetDeclaration) (more : List TargetDeclaration) :
    ∀ candidate ∈ first :: more, (scoring.preference source candidate
      (more.foldl (scoring.prefer source) first)).isLE = true := by
  induction more generalizing first with
  | nil =>
    intro candidate member
    rw [List.mem_singleton.mp member]
    exact ReflCmp.isLE_rfl
  | cons next more ih =>
    -- The next candidate is beaten by the one chosen now, and that one by the last one chosen.
    have later := ih (scoring.prefer source first next)
    have chosen := later _ List.mem_cons_self
    have both := scoring.isLE_prefer source first next
    intro candidate member
    rw [List.foldl_cons]
    rcases List.mem_cons.mp member with rfl | member
    · exact TransCmp.isLE_trans both.1 chosen
    · rcases List.mem_cons.mp member with rfl | member
      · exact TransCmp.isLE_trans both.2 chosen
      · exact later candidate (List.mem_cons_of_mem _ member)

theorem isLE_best? (chosen : scoring.best? source candidates = some best) :
    ∀ candidate ∈ candidates, (scoring.preference source candidate best).isLE = true := by
  cases candidates with
  | nil => cases chosen
  | cons first more =>
    cases chosen
    exact scoring.isLE_foldl_prefer source first more

theorem preference_of_perm (reordered : candidates.Perm others)
    (first : scoring.best? source candidates = some a)
    (second : scoring.best? source others = some b) : scoring.preference source a b = .eq := by
  apply OrientedCmp.isLE_antisymm
  · exact isLE_best? second a (reordered.mem_iff.mp (mem_of_best? first))
  · exact isLE_best? first b (reordered.mem_iff.mpr (mem_of_best? second))

/-- Preference tells candidates of one name apart by their packages and by the places of their
files. -/
theorem identity_of_preference (equal : scoring.preference source a b = .eq)
    (named : a.name = b.name) : a.identity = b.identity := by
  -- Points and sizes tell nothing here; qualified names do, as the names after the dot agree.
  rw [preference, Ordering.then_eq_eq, Ordering.then_eq_eq, Ordering.then_eq_eq] at equal
  have qualified : a.package ++ "." ++ a.name = b.package ++ "." ++ b.name :=
    LawfulEqCmp.eq_of_compare equal.2.2.1
  have packages : a.package = b.package := by
    rw [named, String.append_assoc, String.append_assoc] at qualified
    exact (String.append_left_inj _).mp qualified
  have places := Path.compare_eq_eq_iff.mp equal.2.2.2
  rw [TargetDeclaration.identity, TargetDeclaration.identity, packages, named, places]

theorem identity_best?_of_perm (scoring : Scoring) (source : SourceDeclaration) {name : String}
    (reordered : candidates.Perm others)
    (named : ∀ candidate ∈ candidates, candidate.name = name) :
    (scoring.best? source candidates).map TargetDeclaration.identity =
      (scoring.best? source others).map TargetDeclaration.identity := by
  by_cases empty : candidates = []
  · rw [empty] at reordered ⊢
    rw [reordered.nil_eq]
  · have further : others ≠ [] := by
      intro none
      rw [none] at reordered
      exact empty reordered.eq_nil
    have one : scoring.best? source candidates ≠ none := mt best?_eq_none_iff.mp empty
    have other : scoring.best? source others ≠ none := mt best?_eq_none_iff.mp further
    obtain ⟨a, first⟩ := Option.ne_none_iff_exists'.mp one
    obtain ⟨b, second⟩ := Option.ne_none_iff_exists'.mp other
    have same : a.name = b.name := by
      rw [named a (mem_of_best? first), named b (reordered.mem_iff.mpr (mem_of_best? second))]
    rw [first, second, Option.map_some, Option.map_some,
      identity_of_preference (preference_of_perm reordered first second) same]

end Match.Scoring

end ApiMigration
