import ApiMigration.Proofs.Text.Reader
import ApiMigration.Stub.FileStem

namespace ApiMigration.Stub

open Text

theorem mem_of_mem_spaceWords {text : List Char} {c : Char} (member : c ∈ spaceWords text) :
    c = '_' ∨ c ∈ text := by
  fun_induction spaceWords text with
  | case1 before capital small text spaced ih =>
    rw [List.mem_append] at member
    rcases member with member | member
    · simp only [List.mem_cons] at member ⊢
      rcases member with rfl | rfl | rfl | rfl | member
      · simp
      · simp
      · simp
      · simp
      · simp [(List.takeWhile_sublist _).mem member]
    · rcases ih member with line | member
      · exact .inl line
      · simp [(List.dropWhile_sublist _).mem member]
  | case2 before capital small text _ ih =>
    rcases List.mem_cons.mp member with rfl | member
    · simp
    · exact (ih member).imp_right (List.mem_cons_of_mem _)
  | case3 text _ => exact .inr member

theorem mem_of_mem_spaceCapitals {text : List Char} {c : Char} (member : c ∈ spaceCapitals text) :
    c = '_' ∨ c ∈ text := by
  fun_induction spaceCapitals text with
  | case1 before capital text spaced ih =>
    simp only [List.mem_cons] at member ⊢
    rcases member with rfl | rfl | rfl | member
    · simp
    · simp
    · simp
    · exact (ih member).imp_right fun inside => .inr (.inr inside)
  | case2 before capital text _ ih =>
    rcases List.mem_cons.mp member with rfl | member
    · simp
    · exact (ih member).imp_right (List.mem_cons_of_mem _)
  | case3 text _ => exact .inr member

def isStemChar (c : Char) : Bool :=
  c.isLower || c.isDigit || c == '_'

theorem lowerChar_below : ∀ code < 128, isNameChar (Char.ofNat code) = true →
    (lowerChar (Char.ofNat code)).all isStemChar = true := by
  decide +kernel

theorem isStemChar_of_mem_lowerChar {c lowered : Char} (named : isNameChar c = true)
    (member : lowered ∈ lowerChar c) : isStemChar lowered = true := by
  have below := lowerChar_below c.toNat (toNat_lt_of_isNameChar named)
  rw [Char.ofNat_toNat] at below
  exact List.all_eq_true.mp (below named) lowered member

theorem isStemChar_of_mem_lowerAfter {before text : List Char} {lowered : Char}
    (named : ∀ c ∈ text, isNameChar c = true) (member : lowered ∈ lowerAfter before text) :
    isStemChar lowered = true := by
  induction text generalizing before with
  | nil => cases member
  | cons c text ih =>
    have first := named c List.mem_cons_self
    have other : c ≠ 'Σ' := by
      rintro rfl
      revert first
      decide +kernel
    rw [lowerAfter, if_neg other, List.mem_append] at member
    rcases member with member | member
    · exact isStemChar_of_mem_lowerChar first member
    · exact ih (fun c inside => named c (List.mem_cons_of_mem _ inside)) member

theorem isStemChar_of_mem_fileStem {name : String} {c : Char}
    (named : ∀ c ∈ name.toList, isNameChar c = true) (member : c ∈ (fileStem name).toList) :
    isStemChar c = true := by
  rw [fileStem, String.toList_ofList, stemChars, lowerCase] at member
  apply isStemChar_of_mem_lowerAfter _ member
  intro c member
  rcases mem_of_mem_spaceCapitals member with rfl | member
  · decide
  · rcases mem_of_mem_spaceWords member with rfl | member
    · decide
    · exact named c member

end ApiMigration.Stub
