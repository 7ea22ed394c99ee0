import ApiMigration.Proofs.Match.Best
import ApiMigration.Proofs.Text.ByteOrder
import Mathlib.Data.List.Induction

namespace ApiMigration.Match

open Std Text

structure Rank where
  points : Int
  packageSize : Nat
  qualifiedName : List UInt8
  origin : List Path.Component
deriving DecidableEq, Repr

/-- Whether a rank is the lower one: fewer points; with as many, a longer package; with one as long,
a smaller name; with the same name, a smaller origin. -/
def Rank.Below (lower upper : Rank) : Prop :=
  lower.points < upper.points ∨ lower.points = upper.points ∧
    (upper.packageSize < lower.packageSize ∨ lower.packageSize = upper.packageSize ∧
      (lower.qualifiedName < upper.qualifiedName ∨ lower.qualifiedName = upper.qualifiedName ∧
        List.compareLex Path.Component.compare lower.origin upper.origin = .lt))

namespace Scoring

def rank (scoring : Scoring) (source : SourceDeclaration) (candidate : TargetDeclaration) :
    Rank where
  points := (scoring.score source candidate).points
  packageSize := (encode candidate.package.toList).length
  qualifiedName := encode candidate.qualifiedName.toList
  origin := candidate.origin.components

variable {scoring : Scoring} {source : SourceDeclaration} {a b best : TargetDeclaration}
  {candidates : List TargetDeclaration}

theorem preference_eq_lt_iff :
    scoring.preference source a b = .lt ↔
      (scoring.rank source a).Below (scoring.rank source b) := by
  simp only [preference, Rank.Below, rank, Ordering.then_eq_lt, compare_lt_iff_lt,
    Std.compare_eq_lt, Std.compare_eq_iff_eq, Int32.lt_iff_toInt_lt, Int32.toInt_inj,
    utf8ByteSize_eq_length, encode_lt_encode_iff, encode_injective.eq_iff, String.toList_inj,
    String.lt_iff_toList_lt, Path.compare]
  rw [eq_comm (a := (encode b.package.toList).length)]

theorem preference_eq_eq_iff :
    scoring.preference source a b = .eq ↔ scoring.rank source a = scoring.rank source b := by
  simp only [preference, rank, Ordering.then_eq_eq, Std.compare_eq_iff_eq, Int32.toInt_inj,
    utf8ByteSize_eq_length, encode_injective.eq_iff, String.toList_inj, Path.compare_eq_eq_iff,
    Rank.mk.injEq]
  rw [eq_comm (a := (encode b.package.toList).length)]

theorem foldl_prefer_of_lt {later : List TargetDeclaration}
    (below : ∀ other ∈ later, scoring.preference source other best = .lt) :
    later.foldl (scoring.prefer source) best = best := by
  induction later with
  | nil => rfl
  | cons next later ih =>
    have kept : scoring.preference source best next = .gt :=
      OrientedCmp.gt_of_lt (below next List.mem_cons_self)
    rw [List.foldl_cons, prefer, if_pos kept]
    exact ih fun other member => below other (List.mem_cons_of_mem _ member)

theorem exists_split_foldl_prefer (scoring : Scoring) (source : SourceDeclaration)
    (first : TargetDeclaration) (more : List TargetDeclaration) :
    ∃ earlier later, first :: more = earlier ++ more.foldl (scoring.prefer source) first :: later ∧
      ∀ other ∈ later,
        scoring.preference source other (more.foldl (scoring.prefer source) first) = .lt := by
  induction more using List.reverseRecOn with
  | nil => exact ⟨[], [], rfl, by simp⟩
  | append_singleton more last ih =>
    obtain ⟨earlier, later, split, below⟩ := ih
    rw [List.foldl_append, List.foldl_cons, List.foldl_nil]
    by_cases kept : scoring.preference source (more.foldl (scoring.prefer source) first) last = .gt
    · rw [prefer, if_pos kept]
      refine ⟨earlier, later ++ [last], ?_, ?_⟩
      · rw [← List.cons_append, split]
        simp
      · intro other member
        rcases List.mem_append.mp member with member | member
        · exact below other member
        · rw [List.mem_singleton.mp member]
          exact OrientedCmp.lt_of_gt kept
    · rw [prefer, if_neg kept]
      exact ⟨first :: more, [], by simp, by simp⟩

theorem best?_eq_some_iff :
    scoring.best? source candidates = some best ↔
      ∃ earlier later, candidates = earlier ++ best :: later ∧
        (∀ other ∈ earlier, (scoring.preference source other best).isLE = true) ∧
        ∀ other ∈ later, scoring.preference source other best = .lt := by
  constructor
  · intro chosen
    cases candidates with
    | nil => cases chosen
    | cons first more =>
      have highest := isLE_best? chosen
      cases chosen
      obtain ⟨earlier, later, split, below⟩ := scoring.exists_split_foldl_prefer source first more
      refine ⟨earlier, later, split, ?_, below⟩
      intro other member
      exact highest other (split ▸ List.mem_append_left _ member)
  · rintro ⟨earlier, later, rfl, above, below⟩
    cases earlier with
    | nil => exact congrArg some (foldl_prefer_of_lt below)
    | cons first more =>
      -- Whatever was chosen before the best candidate gives way to it.
      have before := above _ (scoring.foldl_prefer_mem source first more)
      have taken :
          scoring.prefer source (more.foldl (scoring.prefer source) first) best = best := by
        rw [prefer, if_neg (Ordering.isLE_iff_ne_gt.mp before)]
      rw [List.cons_append, best?, List.foldl_append, List.foldl_cons, taken,
        foldl_prefer_of_lt below]

/-- There is a best candidate unless there is none at all. It is the one that every later candidate
ranks below and every earlier one below or at the same rank. -/
theorem best?_is_last_optimum (scoring : Scoring) (source : SourceDeclaration)
    (candidates : List TargetDeclaration) :
    (scoring.best? source candidates = none ↔ candidates = []) ∧
      ∀ best, scoring.best? source candidates = some best ↔
        ∃ earlier later, candidates = earlier ++ best :: later ∧
          (∀ other ∈ earlier, (scoring.rank source other).Below (scoring.rank source best) ∨
            scoring.rank source other = scoring.rank source best) ∧
          ∀ other ∈ later, (scoring.rank source other).Below (scoring.rank source best) := by
  refine ⟨best?_eq_none_iff, ?_⟩
  intro best
  simp only [best?_eq_some_iff, Ordering.isLE_iff_eq_lt_or_eq_eq, preference_eq_lt_iff,
    preference_eq_eq_iff]

end Scoring

end ApiMigration.Match
