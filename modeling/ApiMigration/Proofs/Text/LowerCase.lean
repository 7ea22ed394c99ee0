import ApiMigration.Text.LowerCase

/-!
What lower-casing leaves alone. No form in the case table is an entry of the table, so a text that
was lower-cased holds only characters that are their own lower-case form, and lower-casing it again
changes nothing, wherever its words end.
-/

namespace ApiMigration.Text

def isLowered (c : Char) : Bool :=
  c != 'Σ' && lowerChar c == [c]

theorem isLowered_iff {c : Char} : isLowered c = true ↔ c ≠ 'Σ' ∧ lowerChar c = [c] := by
  simp [isLowered]

/-- The form of the first character: only that of a capital sigma depends on the text around it. -/
theorem exists_lowerAfter_cons (before : List Char) (c : Char) (text : List Char) :
    ∃ form, lowerAfter before (c :: text) = form ++ lowerAfter (c :: before) text ∧
      (c = 'Σ' ∧ (form = ['ς'] ∨ form = ['σ']) ∨ c ≠ 'Σ' ∧ form = lowerChar c) := by
  refine ⟨_, rfl, ?_⟩
  by_cases sigma : c = 'Σ'
  · rw [if_pos sigma]
    refine .inl ⟨sigma, ?_⟩
    split
    · exact .inl rfl
    · exact .inr rfl
  · rw [if_neg sigma]
    exact .inr ⟨sigma, rfl⟩

theorem lowerChar_ne_nil (c : Char) : lowerChar c ≠ [] := by
  unfold lowerChar
  split
  · simp
  · split <;> simp

theorem length_le_lowerAfter (before text : List Char) :
    text.length ≤ (lowerAfter before text).length := by
  induction text generalizing before with
  | nil => exact Nat.zero_le _
  | cons c text ih =>
    obtain ⟨form, split, forms⟩ := exists_lowerAfter_cons before c text
    have solid : form ≠ [] := by
      rcases forms with ⟨_, rfl | rfl⟩ | ⟨_, rfl⟩
      · simp
      · simp
      · exact lowerChar_ne_nil c
    have long := List.length_pos_iff.mpr solid
    have later := ih (c :: before)
    rw [split, List.length_append, List.length_cons]
    omega

theorem length_le_lowerCase (text : List Char) : text.length ≤ (lowerCase text).length :=
  length_le_lowerAfter [] text

theorem lowerCase_ne_nil {text : List Char} (solid : text ≠ []) : lowerCase text ≠ [] := by
  rw [← List.length_pos_iff] at solid ⊢
  exact Nat.lt_of_lt_of_le solid (length_le_lowerCase text)

/-- Whether no form that one run of the case table gives is an entry of another: the code points lie
apart, or they are even on one side and odd on the other. -/
def CaseRange.avoids (range other : CaseRange) : Bool :=
  Nat.blt other.last range.image || Nat.blt (range.image + (range.last - range.first)) other.first ||
    (range.step == 2 || range.first == range.last) && other.step == 2 &&
      (range.image + other.first) % 2 == 1

theorem CaseRange.eq_none_of_avoids {range other : CaseRange} {code image : Nat}
    (avoids : range.avoids other = true) (applied : range.apply? code = some image) :
    other.apply? image = none := by
  unfold CaseRange.apply? at applied ⊢
  split at applied
  · next inside =>
    cases applied
    apply if_neg
    intro within
    simp only [CaseRange.avoids, Bool.or_eq_true, Bool.and_eq_true, Nat.blt_eq, beq_iff_eq] at avoids
    rcases avoids with (above | below) | ⟨⟨two | single, otherTwo⟩, odd⟩
    · omega
    · omega
    · rw [two] at inside
      rw [otherTwo] at within
      omega
    · rw [otherTwo] at within
      omega
  · cases applied

/-- No form in the case table is an entry of the table or the capital i with a dot, and all are
characters. -/
theorem lowerRanges_avoid :
    (lowerRanges.all fun range =>
      (⟨0x130, 0x130, 1, 0x130⟩ :: lowerRanges).all range.avoids &&
        (Nat.blt (range.image + (range.last - range.first)) 0xD800 ||
          Nat.blt 0xDFFF range.image &&
            Nat.blt (range.image + (range.last - range.first)) 0x110000)) = true := by
  decide +kernel

theorem isLowered_of_applied {range : CaseRange} {code image : Nat} (listed : range ∈ lowerRanges)
    (applied : range.apply? code = some image) : isLowered (Char.ofNat image) = true := by
  have facts := List.all_eq_true.mp lowerRanges_avoid range listed
  simp only [Bool.and_eq_true, Bool.or_eq_true, Nat.blt_eq, List.all_cons, List.all_eq_true]
    at facts
  obtain ⟨⟨dotted, others⟩, bounds⟩ := facts
  have absent (other : CaseRange) (member : other ∈ lowerRanges) : other.apply? image = none :=
    CaseRange.eq_none_of_avoids (others other member) applied
  have plain := CaseRange.eq_none_of_avoids dotted applied
  have valid : (Char.ofNat image).toNat = image := by
    have bounded : image ≤ range.image + (range.last - range.first) ∧ range.image ≤ image := by
      unfold CaseRange.apply? at applied
      split at applied
      · cases applied
        omega
      · cases applied
    have character : image.isValidChar := by
      unfold Nat.isValidChar
      omega
    rw [Char.ofNat, dif_pos character]
    rfl
  have nowhere : (lowerRanges.findSome? fun range => range.apply? image) = none :=
    List.findSome?_eq_none_iff.mpr absent
  rw [isLowered_iff]
  constructor
  · intro sigma
    have entry : (lowerRanges.findSome? fun range => range.apply? 'Σ'.toNat) ≠ none := by
      decide +kernel
    rw [← sigma, valid] at entry
    exact entry nowhere
  · have other : Char.ofNat image ≠ 'İ' := by
      intro same
      have code := congrArg Char.toNat same
      rw [valid] at code
      rw [code] at plain
      revert plain
      decide
    rw [lowerChar, if_neg other, valid, nowhere]

theorem isLowered_of_mem_lowerChar {c lowered : Char} (other : c ≠ 'Σ')
    (member : lowered ∈ lowerChar c) : isLowered lowered = true := by
  by_cases dotted : c = 'İ'
  · have forms : isLowered 'i' = true ∧ isLowered '\u0307' = true := by decide +kernel
    rw [lowerChar, if_pos dotted] at member
    rcases List.mem_cons.mp member with rfl | member
    · exact forms.1
    · rw [List.mem_singleton.mp member]
      exact forms.2
  · cases found : lowerRanges.findSome? fun range => range.apply? c.toNat with
    | none =>
      have alone : lowerChar c = [c] := by rw [lowerChar, if_neg dotted, found]
      rw [alone, List.mem_singleton] at member
      rw [member, isLowered_iff]
      exact ⟨other, alone⟩
    | some image =>
      obtain ⟨range, listed, applied⟩ := List.exists_of_findSome?_eq_some found
      rw [lowerChar, if_neg dotted, found, List.mem_singleton] at member
      rw [member]
      exact isLowered_of_applied listed applied

theorem isLowered_of_mem_lowerAfter {before text : List Char} {lowered : Char}
    (member : lowered ∈ lowerAfter before text) : isLowered lowered = true := by
  induction text generalizing before with
  | nil => cases member
  | cons c text ih =>
    obtain ⟨form, split, forms⟩ := exists_lowerAfter_cons before c text
    rw [split, List.mem_append] at member
    rcases member with member | member
    · have sigmas : isLowered 'ς' = true ∧ isLowered 'σ' = true := by decide +kernel
      rcases forms with ⟨_, rfl | rfl⟩ | ⟨other, rfl⟩
      · rw [List.mem_singleton.mp member]
        exact sigmas.1
      · rw [List.mem_singleton.mp member]
        exact sigmas.2
      · exact isLowered_of_mem_lowerChar other member
    · exact ih member

theorem isLowered_of_mem_lowerCase {text : List Char} {lowered : Char}
    (member : lowered ∈ lowerCase text) : isLowered lowered = true :=
  isLowered_of_mem_lowerAfter member

theorem lowerAfter_eq_self {before text : List Char}
    (lowered : ∀ c ∈ text, isLowered c = true) : lowerAfter before text = text := by
  induction text generalizing before with
  | nil => rfl
  | cons c text ih =>
    obtain ⟨other, alone⟩ := isLowered_iff.mp (lowered c List.mem_cons_self)
    have later : lowerAfter (c :: before) text = text :=
      ih fun d member => lowered d (List.mem_cons_of_mem c member)
    rw [lowerAfter, if_neg other, alone, later]
    rfl

theorem lowerCase_lowerCase (text : List Char) : lowerCase (lowerCase text) = lowerCase text :=
  lowerAfter_eq_self fun _ => isLowered_of_mem_lowerCase

theorem isLowered_capital : ∀ offset < 26, isLowered (Char.ofNat (0x41 + offset)) = false := by
  decide +kernel

theorem isUpper_eq_false_of_isLowered {c : Char} (lowered : isLowered c = true) :
    c.isUpper = false := by
  rw [Bool.eq_false_iff]
  intro capital
  obtain ⟨above, below⟩ := of_decide_eq_true capital
  have first : 0x41 ≤ c.toNat := UInt32.le_iff_toNat_le.mp above
  have last : c.toNat ≤ 0x5A := UInt32.le_iff_toNat_le.mp below
  have other := isLowered_capital (c.toNat - 0x41) (by omega)
  rw [Nat.add_sub_cancel' first, Char.ofNat_toNat, lowered] at other
  cases other

end ApiMigration.Text
