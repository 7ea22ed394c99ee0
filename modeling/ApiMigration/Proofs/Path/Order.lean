import ApiMigration.Path.Basic

namespace ApiMigration.Path

open Std

theorem Component.compare_eq :
    Component.compare =
      compareLex (compareOn Component.rank) (compareOn fun part => part.name?.getD "") := by
  funext a b
  cases a with
  | root => cases b <;> rfl
  | here => cases b <;> rfl
  | up => cases b <;> rfl
  | name first =>
    cases b with
    | name second => simp [Component.compare, compareLex, compareOn, rank, name?]
    | _ => rfl

instance : TransCmp Component.compare := by
  rw [Component.compare_eq]
  infer_instance

instance : LawfulEqCmp Component.compare where
  compare_self := ReflCmp.compare_self
  eq_of_compare := by
    intro a b same
    cases a <;> cases b <;> simp_all [Component.compare, Component.rank]

instance : TransCmp Path.compare where
  eq_swap := by
    intro a b
    rw [Path.compare, Path.compare]
    exact OrientedCmp.eq_swap
  isLE_trans := by
    intro a b c first second
    rw [Path.compare] at first second ⊢
    exact TransCmp.isLE_trans first second

theorem compare_eq_eq_iff {a b : Path} : a.compare b = .eq ↔ a.components = b.components := by
  rw [Path.compare, LawfulEqCmp.compare_eq_iff_eq]

end ApiMigration.Path
