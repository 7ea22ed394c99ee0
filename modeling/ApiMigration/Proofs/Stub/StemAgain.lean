import ApiMigration.Proofs.Stub.Place
import ApiMigration.Proofs.Stub.Words
import ApiMigration.Proofs.Text.ByteOrder

/-!
The file stem of a file stem. Words begin with capitals, and a stem has none left, so taking the stem
again marks nothing and lower-cases what is in small letters already.
-/

namespace ApiMigration.Stub

open Text

theorem marked_eq_self {text : List Char} (small : ∀ c ∈ text, c.isUpper = false) :
    marked text = text := by
  induction text with
  | nil => rfl
  | cons c text ih =>
    have unmarked : beginsAfter c text = false := by
      cases text with
      | nil => rfl
      | cons next text =>
        rw [beginsAfter, List.head?_cons, Option.any_some, small next (by simp), Bool.false_and]
    rw [marked_cons, unmarked, ih fun d member => small d (List.mem_cons_of_mem c member)]
    rfl

theorem length_le_marked (text : List Char) : text.length ≤ (marked text).length := by
  induction text with
  | nil => exact Nat.le_refl _
  | cons c text ih =>
    rw [marked_cons, List.length_cons, List.length_cons, List.length_append]
    omega

theorem stemChars_eq_lowerCase_marked (name : List Char) :
    stemChars name = lowerCase (marked name) := by
  rw [stemChars, spaceCapitals_spaceWords]

theorem isUpper_eq_false_of_mem_stemChars {name : List Char} {c : Char}
    (member : c ∈ stemChars name) : c.isUpper = false :=
  isUpper_eq_false_of_isLowered (isLowered_of_mem_lowerCase member)

theorem stemChars_stemChars (name : List Char) : stemChars (stemChars name) = stemChars name := by
  calc stemChars (stemChars name)
      = lowerCase (marked (stemChars name)) := stemChars_eq_lowerCase_marked _
    _ = lowerCase (stemChars name) := by
      rw [marked_eq_self fun _ => isUpper_eq_false_of_mem_stemChars]
    _ = stemChars name := lowerCase_lowerCase _

theorem length_le_stemChars (name : List Char) : name.length ≤ (stemChars name).length := by
  rw [stemChars_eq_lowerCase_marked]
  exact Nat.le_trans (length_le_marked name) (length_le_lowerCase _)

theorem isNameChar_of_isStemChar {c : Char} (stem : isStemChar c = true) : isNameChar c = true := by
  simp only [isStemChar, isNameChar, Char.isAlphanum, Bool.or_eq_true] at stem ⊢
  rcases stem with (small | digit) | line
  · have letter : c.isAlpha = true := Bool.or_eq_true_iff.mpr (.inr small)
    exact .inl (.inl letter)
  · exact .inl (.inr digit)
  · exact .inr line

/-- The stem of a stem is the stem itself, and it has no capital A to Z. That of an identifier, or of
any other name of letters, digits and underscores, is made of small letters, digits and
underscores, and it is not shorter than the name. -/
theorem fileStem_again (name : String) :
    fileStem (fileStem name) = fileStem name ∧
      (∀ c ∈ (fileStem name).toList, c.isUpper = false) ∧
      (name ≠ "" → (∀ c ∈ name.toList, isNameChar c = true) →
        (∀ c ∈ (fileStem name).toList, isStemChar c = true) ∧ fileStem name ≠ "" ∧
          name.utf8ByteSize ≤ (fileStem name).utf8ByteSize) := by
  refine ⟨?_, ?_, ?_⟩
  · rw [fileStem, fileStem, String.toList_ofList, stemChars_stemChars]
  · intro c member
    rw [fileStem, String.toList_ofList] at member
    exact isUpper_eq_false_of_mem_stemChars member
  · intro written named
    have stem (c : Char) (member : c ∈ (fileStem name).toList) : isStemChar c = true :=
      isStemChar_of_mem_fileStem named member
    have ascii : ∀ c ∈ (fileStem name).toList, c.toNat < 0x80 := fun c member =>
      toNat_lt_of_isNameChar (isNameChar_of_isStemChar (stem c member))
    refine ⟨stem, fileStem_ne_empty written, ?_⟩
    rw [utf8ByteSize_of_ascii fun c member => toNat_lt_of_isNameChar (named c member),
      utf8ByteSize_of_ascii ascii, fileStem, String.toList_ofList]
    exact length_le_stemChars name.toList

theorem fileStem_again_of_capitals :
    let name := "HTTPServer2Go_X"
    name ≠ "" ∧ (∀ c ∈ name.toList, isNameChar c = true) ∧
      fileStem name = "http_server2_go_x" ∧
      (∀ c ∈ (fileStem name).toList, isStemChar c = true) ∧ fileStem name ≠ "" ∧
        name.utf8ByteSize ≤ (fileStem name).utf8ByteSize := by
  intro name
  have written : name ≠ "" := by decide
  have named : ∀ c ∈ name.toList, isNameChar c = true := by decide
  have stem : fileStem name = "http_server2_go_x" := by
    rw [fileStem, stemChars_eq_lowerCase_marked]
    decide +kernel
  exact ⟨written, named, stem, (fileStem_again name).2.2 written named⟩

end ApiMigration.Stub
