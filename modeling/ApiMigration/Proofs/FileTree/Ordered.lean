import ApiMigration.Proofs.Path.Order
import ApiMigration.Proofs.Path.Relative

namespace ApiMigration

open Std

section Lists

variable {α β : Type} {order : α → α → Ordering}

theorem compareLex_append_left [ReflCmp order] (front first second : List α) :
    List.compareLex order (front ++ first) (front ++ second) =
      List.compareLex order first second := by
  induction front with
  | nil => rfl
  | cons item front ih =>
    have level : order item item = .eq := ReflCmp.compare_self
    rw [List.cons_append, List.cons_append, List.compareLex_cons_cons, level, ih]
    rfl

theorem compareLex_map (image : β → α) (first second : List β) :
    List.compareLex order (first.map image) (second.map image) =
      List.compareLex (fun a b => order (image a) (image b)) first second := by
  induction first generalizing second with
  | nil => cases second <;> rfl
  | cons a first ih =>
    cases second with
    | nil => rfl
    | cons b second =>
      rw [List.map_cons, List.map_cons, List.compareLex_cons_cons, List.compareLex_cons_cons, ih]

theorem pairwise_lt_of_nodup [LawfulEqCmp order] {items : List α}
    (ordered : items.Pairwise fun a b => (order a b).isLE = true) (distinct : items.Nodup) :
    items.Pairwise fun a b => order a b = .lt := by
  refine (List.Pairwise.and ordered distinct).imp ?_
  rintro a b ⟨below, differs⟩
  cases compared : order a b with
  | lt => rfl
  | eq => exact absurd (LawfulEqCmp.eq_of_compare compared) differs
  | gt =>
    rw [compared] at below
    cases below

end Lists

theorem Path.compare_joinAll {root : Path} {names others : List String} (written : root.text ≠ "")
    (plain : ∀ name ∈ names, IsPlain name) (otherPlain : ∀ name ∈ others, IsPlain name) :
    (root.joinAll names).compare (root.joinAll others) = List.compareLex Ord.compare names others := by
  rw [Path.compare, components_joinAll written plain, components_joinAll written otherPlain,
    compareLex_append_left, compareLex_map]
  rfl

namespace FileTree

theorem Proper.pairwise_scan {tree : FileTree} {root : Path} {selection : Selection}
    {paths : List Path} (proper : tree.Proper) (scanned : tree.scan root selection = .ok paths) :
    paths.Pairwise fun a b => a.compare b = .lt := by
  obtain ⟨base, located, _, rfl⟩ := scan_eq_ok_iff.mp scanned
  have written := (admissible_of_locate located).written
  have plain : ∀ names ∈ tree.foundBelow selection base, ∀ name ∈ names, Path.IsPlain name := by
    intro names member name inside
    obtain ⟨_, _, _, held⟩ := (mem_foundBelow proper).mp member
    exact (proper.isFileName held name (List.mem_append_right _ inside)).plain
  have strict := pairwise_lt_of_nodup (pairwise_foundBelow tree selection base)
    (nodup_foundBelow proper)
  rw [List.pairwise_map]
  refine strict.imp_of_mem ?_
  intro names others member otherMember below
  rw [Path.compare_joinAll written (plain names member) (plain others otherMember)]
  exact below

end FileTree

end ApiMigration
