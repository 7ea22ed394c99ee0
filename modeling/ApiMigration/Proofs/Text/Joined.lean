import ApiMigration.Text.Affix
import Mathlib.Data.List.Basic

namespace ApiMigration.Text

theorem toList_joinWith_cons (separator first : String) (more : List String) :
    ∃ rest, (joinWith separator (first :: more)).toList = first.toList ++ rest := by
  cases more with
  | nil => exact ⟨[], by simp [joinWith]⟩
  | cons second more =>
    refine ⟨separator.toList ++ (joinWith separator (second :: more)).toList, ?_⟩
    simp [joinWith]

theorem toList_joinWith (separator : String) (texts : List String) :
    (joinWith separator texts).toList =
      List.intercalate separator.toList (texts.map String.toList) := by
  induction texts with
  | nil => rfl
  | cons text more ih =>
    cases more with
    | nil => simp [joinWith]
    | cons next more =>
      simp only [joinWith, String.toList_append, ih, List.map_cons, List.intercalate_cons_cons]

theorem joinWith_concat (separator : String) {texts : List String} (further : texts ≠ [])
    (last : String) :
    joinWith separator (texts ++ [last]) = joinWith separator texts ++ separator ++ last := by
  induction texts with
  | nil => exact absurd rfl further
  | cons text more ih =>
    cases more with
    | nil => rfl
    | cons next more =>
      rw [List.cons_append, List.cons_append, joinWith, ← List.cons_append, ih (by simp)]
      simp only [joinWith, String.append_assoc]
      simp

theorem forall_mem_joinWith {separator : String} {allowed : Char → Prop}
    (apart : ∀ c ∈ separator.toList, allowed c) (texts : List String) :
    (∀ c ∈ (joinWith separator texts).toList, allowed c) ↔
      ∀ text ∈ texts, ∀ c ∈ text.toList, allowed c := by
  induction texts with
  | nil => simp [joinWith]
  | cons text more ih =>
    cases more with
    | nil => simp [joinWith]
    | cons next more =>
      rw [List.forall_mem_cons, ← ih, joinWith, String.toList_append, String.toList_append,
        List.forall_mem_append, List.forall_mem_append]
      · constructor
        · rintro ⟨⟨first, _⟩, rest⟩
          exact ⟨first, rest⟩
        · rintro ⟨first, rest⟩
          exact ⟨⟨first, apart⟩, rest⟩
      · simp

end ApiMigration.Text
