import ApiMigration.Proofs.Text.Utf8
import Mathlib.Data.String.Basic

namespace ApiMigration.Text

theorem byte_cons_lt {low high : Nat} {left right : List UInt8} (short : high < 256)
    (ordered : low ≤ high) (further : low = high → left < right) :
    UInt8.ofNat low :: left < UInt8.ofNat high :: right := by
  rw [List.cons_lt_cons_iff, UInt8.lt_iff_toNat_lt, toNat_byte (by omega), toNat_byte short]
  rcases Nat.lt_or_eq_of_le ordered with less | same
  · exact .inl less
  · exact .inr ⟨by rw [same], further same⟩

theorem encodeChar_append_lt {c d : Char} (smaller : c < d) (left right : List UInt8) :
    encodeChar c ++ left < encodeChar d ++ right := by
  have codes : c.toNat < d.toNat := Char.lt_def.mp smaller
  have bound := toNat_bounds d
  generalize first : c.toNat = code at codes
  generalize second : d.toNat = other at codes bound
  simp only [encodeChar, first, second]
  -- A character of fewer bytes has the smaller first byte. With as many bytes, the code points are
  -- compared digit by digit.
  split
  · split
    · exact byte_cons_lt (by omega) (by omega) (by omega)
    split
    · exact byte_cons_lt (by omega) (by omega) (by omega)
    split <;> exact byte_cons_lt (by omega) (by omega) (by omega)
  rw [if_neg (by omega : ¬ other < 0x80)]
  split
  · split
    · refine byte_cons_lt (by omega) (by omega) fun same => ?_
      exact byte_cons_lt (by omega) (by omega) (by omega)
    split <;> exact byte_cons_lt (by omega) (by omega) (by omega)
  rw [if_neg (by omega : ¬ other < 0x800)]
  split
  · split
    · refine byte_cons_lt (by omega) (by omega) fun same => ?_
      refine byte_cons_lt (by omega) (by omega) fun next => ?_
      exact byte_cons_lt (by omega) (by omega) (by omega)
    · exact byte_cons_lt (by omega) (by omega) (by omega)
  rw [if_neg (by omega : ¬ other < 0x10000)]
  refine byte_cons_lt (by omega) (by omega) fun same => ?_
  refine byte_cons_lt (by omega) (by omega) fun next => ?_
  refine byte_cons_lt (by omega) (by omega) fun third => ?_
  exact byte_cons_lt (by omega) (by omega) (by omega)

theorem encodeChar_ne_nil (c : Char) : encodeChar c ≠ [] := by
  unfold encodeChar
  dsimp only
  split
  · simp
  split
  · simp
  split <;> simp

theorem encode_lt_of_lt {first second : List Char} (smaller : first < second) :
    encode first < encode second := by
  induction first generalizing second with
  | nil =>
    cases second with
    | nil => cases smaller
    | cons d second =>
      obtain ⟨byte, more, spelled⟩ := List.exists_cons_of_ne_nil (encodeChar_ne_nil d)
      rw [encode_cons, spelled, List.cons_append]
      exact List.nil_lt_cons _ _
  | cons c first ih =>
    cases second with
    | nil => cases smaller
    | cons d second =>
      rw [encode_cons, encode_cons]
      rcases List.cons_lt_cons_iff.mp smaller with less | ⟨rfl, less⟩
      · exact encodeChar_append_lt less _ _
      · exact List.append_left_lt (ih less)

theorem encode_lt_encode_iff {first second : List Char} :
    encode first < encode second ↔ first < second := by
  constructor
  · intro smaller
    rcases lt_trichotomy first second with less | rfl | greater
    · exact less
    · exact absurd smaller (List.lt_irrefl _)
    · exact absurd smaller (List.lt_asymm (encode_lt_of_lt greater))
  · exact encode_lt_of_lt

theorem encode_injective : Function.Injective encode :=
  Function.LeftInverse.injective decodeLossy_encode

theorem length_encodeChar (c : Char) : (encodeChar c).length = c.utf8Size := by
  have size : c.utf8Size = if c.toNat ≤ 0x7F then 1 else if c.toNat ≤ 0x7FF then 2
      else if c.toNat ≤ 0xFFFF then 3 else 4 := rfl
  rw [size]
  simp only [encodeChar]
  split
  · rw [if_pos (by omega)]
    rfl
  rw [if_neg (by omega : ¬ c.toNat ≤ 0x7F)]
  split
  · rw [if_pos (by omega)]
    rfl
  rw [if_neg (by omega : ¬ c.toNat ≤ 0x7FF)]
  split
  · rw [if_pos (by omega)]
    rfl
  · rw [if_neg (by omega)]
    rfl

theorem utf8ByteSize_eq_length (text : String) :
    text.utf8ByteSize = (encode text.toList).length := by
  rw [← String.ofList_toList (s := text), String.toList_ofList]
  induction text.toList with
  | nil => rfl
  | cons c chars ih =>
    rw [← List.singleton_append, String.ofList_append, String.utf8ByteSize_append, ih,
      List.singleton_append, encode_cons, List.length_append, length_encodeChar]
    simp

theorem utf8ByteSize_of_ascii {text : String} (ascii : ∀ c ∈ text.toList, c.toNat < 0x80) :
    text.utf8ByteSize = text.toList.length := by
  rw [utf8ByteSize_eq_length]
  generalize text.toList = chars at ascii
  induction chars with
  | nil => rfl
  | cons c chars ih =>
    have later := ih fun d member => ascii d (List.mem_cons_of_mem c member)
    rw [encode_cons, List.length_append, later, encodeChar, if_pos (ascii c List.mem_cons_self),
      List.length_singleton, List.length_cons, Nat.add_comm]

end ApiMigration.Text
