import Mathlib.Data.List.Perm.Basic

/-!
Lists that are sorted or rid of duplicates. An order in which only equal items are equal leaves one
way to sort a list, whatever order it came in; any other order leaves one way that keeps tied items
as they stood.
-/

namespace ApiMigration

open Std

variable {α : Type} {first second : List α}

section Order

variable (order : α → α → Ordering) [TransCmp order]

theorem isLE_or_isLE (a b : α) : ((order a b).isLE || (order b a).isLE) = true := by
  rw [show order b a = (order a b).swap from OrientedCmp.eq_swap]
  cases order a b <;> rfl

theorem pairwise_mergeSort (items : List α) :
    (items.mergeSort fun a b => (order a b).isLE).Pairwise fun a b => (order a b).isLE = true := by
  apply List.pairwise_mergeSort _ (isLE_or_isLE order)
  intro a b c earlier later
  exact TransCmp.isLE_trans earlier later

theorem filter_mergeSort_tied (items : List α) (item : α) :
    ((items.mergeSort fun a b => (order a b).isLE).filter fun other => order item other == .eq) =
      items.filter fun other => order item other == .eq := by
  let tied (other : α) : Bool := order item other == .eq
  have level : (items.filter tied).Pairwise fun a b => (order a b).isLE = true := by
    apply List.pairwise_of_forall_mem_list
    intro a first b second
    have left : order item a = .eq := beq_iff_eq.mp (List.mem_filter.mp first).2
    have right : order item b = .eq := beq_iff_eq.mp (List.mem_filter.mp second).2
    rw [TransCmp.eq_trans (OrientedCmp.eq_symm left) right]
    rfl
  have inside : (items.filter tied).Sublist (items.mergeSort fun a b => (order a b).isLE) := by
    apply List.sublist_mergeSort _ (isLE_or_isLE order) level List.filter_sublist
    intro a b c earlier later
    exact TransCmp.isLE_trans earlier later
  have kept := inside.filter tied
  rw [List.filter_filter, List.filter_congr fun other _ => Bool.and_self (tied other)] at kept
  exact (kept.eq_of_length ((List.mergeSort_perm _ _).filter tied).length_eq.symm).symm

theorem eq_of_sorted_of_tied (ordered : first.Pairwise fun a b => (order a b).isLE = true)
    (otherOrdered : second.Pairwise fun a b => (order a b).isLE = true)
    (tied : ∀ item, (first.filter fun other => order item other == .eq) =
      second.filter fun other => order item other == .eq) : first = second := by
  have begins {item b : α} (level : order item b = .eq) (items : List α) :
      ((b :: items).filter fun other => order item other == .eq) =
        b :: items.filter fun other => order item other == .eq := by
    rw [List.filter_cons, if_pos (beq_iff_eq.mpr level)]
  have self (item : α) : order item item = .eq := ReflCmp.compare_self
  induction first generalizing second with
  | nil =>
    cases second with
    | nil => rfl
    | cons b second =>
      have held := tied b
      rw [begins (self b)] at held
      cases held
  | cons a first ih =>
    have held := tied a
    rw [begins (self a)] at held
    cases second with
    | nil => cases held
    | cons b second =>
      have bounds := List.pairwise_cons.mp ordered
      have otherBounds := List.pairwise_cons.mp otherOrdered
      have other := tied b
      rw [begins (self b)] at other
      have left : a ∈ b :: second := List.mem_of_mem_filter (held ▸ List.mem_cons_self)
      have right : b ∈ a :: first := List.mem_of_mem_filter (other ▸ List.mem_cons_self)
      -- Each head is listed on the other side, so neither comes after the other.
      have same : a = b := by
        rcases List.mem_cons.mp left with same | left
        · exact same
        rcases List.mem_cons.mp right with same | right
        · exact same.symm
        have level := OrientedCmp.isLE_antisymm (bounds.1 b right) (otherBounds.1 a left)
        rw [begins level] at held
        exact (List.cons.inj held).1
      subst same
      rw [ih bounds.2 otherBounds.2]
      intro item
      have rest := tied item
      simp only [List.filter_cons] at rest
      split at rest
      · exact (List.cons.inj rest).2
      · exact rest

variable [LawfulEqCmp order]

theorem eq_of_sorted (ordered : first.Pairwise fun a b => (order a b).isLE = true)
    (otherOrdered : second.Pairwise fun a b => (order a b).isLE = true)
    (reordered : first.Perm second) : first = second := by
  apply reordered.eq_of_pairwise _ ordered otherOrdered
  intro a b _ _ below above
  exact LawfulEqCmp.eq_of_compare (OrientedCmp.isLE_antisymm below above)

theorem mergeSort_eq_of_perm (reordered : first.Perm second) :
    (first.mergeSort fun a b => (order a b).isLE) =
      second.mergeSort fun a b => (order a b).isLE := by
  apply eq_of_sorted order (pairwise_mergeSort order first) (pairwise_mergeSort order second)
  exact (List.mergeSort_perm _ _).trans (reordered.trans (List.mergeSort_perm _ _).symm)

end Order

section Duplicates

variable [BEq α] [LawfulBEq α]

theorem nodup_eraseDups (items : List α) : items.eraseDups.Nodup := by
  match items with
  | [] => exact List.nodup_nil
  | item :: more =>
    rw [List.eraseDups_cons, List.nodup_cons]
    refine ⟨?_, nodup_eraseDups _⟩
    rw [List.mem_eraseDups, List.mem_filter]
    simp
  termination_by items.length
  decreasing_by exact Nat.lt_succ_of_le (List.length_filter_le ..)

theorem eraseDups_perm (reordered : first.Perm second) :
    first.eraseDups.Perm second.eraseDups := by
  rw [List.perm_ext_iff_of_nodup (nodup_eraseDups first) (nodup_eraseDups second)]
  intro item
  rw [List.mem_eraseDups, List.mem_eraseDups, reordered.mem_iff]

theorem flatMap_filter_perm {β : Type} (key : β → α) {keys : List α} (distinct : keys.Nodup)
    {items : List β} (covered : ∀ item ∈ items, key item ∈ keys) :
    (keys.flatMap fun k => items.filter fun item => key item == k).Perm items := by
  induction keys generalizing items with
  | nil =>
    have none : items = [] :=
      List.eq_nil_iff_forall_not_mem.mpr fun item member => List.not_mem_nil (covered item member)
    rw [none, List.flatMap_nil]
  | cons first more ih =>
    obtain ⟨new, distinct⟩ := List.nodup_cons.mp distinct
    let others := items.filter fun item => !(key item == first)
    have kept : ∀ k ∈ more, (items.filter fun item => key item == k) =
        others.filter fun item => key item == k := by
      intro k member
      rw [List.filter_filter]
      apply List.filter_congr
      intro item _
      cases same : key item == k with
      | false => rfl
      | true =>
        have other : key item ≠ first := by
          rintro rfl
          exact new (eq_of_beq same ▸ member)
        simp [other]
    have rest : ∀ item ∈ others, key item ∈ more := by
      intro item member
      obtain ⟨member, other⟩ := List.mem_filter.mp member
      apply (List.mem_cons.mp (covered item member)).resolve_left
      simpa using other
    rw [List.flatMap_cons, List.flatMap_congr kept]
    exact ((ih distinct rest).append_left _).trans (List.filter_append_perm _ items)

end Duplicates

end ApiMigration
