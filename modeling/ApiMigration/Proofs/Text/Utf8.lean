import ApiMigration.Text.Utf8

/-!
Writing and reading of UTF-8. What was written is read back, whatever bytes follow it, so no text
is the beginning of another one in bytes; and a byte of the ASCII range is always a character of its
own, so bytes can be cut at it.
-/

namespace ApiMigration.Text

theorem encode_cons (c : Char) (text : List Char) :
    encode (c :: text) = encodeChar c ++ encode text := by
  simp [encode]

theorem encode_append (left right : List Char) :
    encode (left ++ right) = encode left ++ encode right := by
  simp [encode]

theorem toNat_byte {n : Nat} (short : n < 256) : (UInt8.ofNat n).toNat = n :=
  UInt8.toNat_ofNat_of_lt' short

theorem toNat_bounds (c : Char) :
    c.toNat < 0xD800 ∨ 0xDFFF < c.toNat ∧ c.toNat < 0x110000 :=
  c.valid

theorem decodeLossy_ascii {byte : UInt8} (ascii : byte.toNat < 0x80) (bytes : List UInt8) :
    decodeLossy (byte :: bytes) = Char.ofNat byte.toNat :: decodeLossy bytes := by
  rw [decodeLossy, if_pos ascii]

theorem decodeLossy_lead {byte : UInt8} {following low high bits code : Nat}
    {bytes rest : List UInt8} (leads : lead? byte.toNat = some ⟨following, low, high, bits⟩)
    (followed : follow following low high bits bytes = (some code, rest)) :
    decodeLossy (byte :: bytes) = Char.ofNat code :: decodeLossy rest := by
  have beyond : ¬ byte.toNat < 0x80 := by
    intro ascii
    rw [lead?, if_pos (by omega)] at leads
    cases leads
  rw [decodeLossy, if_neg beyond]
  simp only [leads, followed]
  rfl

theorem follow_byte {count low high code next : Nat} (above : low ≤ next) (below : next ≤ high)
    (short : next < 256) (bytes : List UInt8) :
    follow (count + 1) low high code (UInt8.ofNat next :: bytes) =
      follow count 0x80 0xBF (code * 64 + (next - 0x80)) bytes := by
  rw [follow, toNat_byte short, if_pos ⟨above, below⟩]

theorem follow_last {low high code next whole : Nat} (above : low ≤ next) (below : next ≤ high)
    (short : next < 256) (sum : code * 64 + (next - 0x80) = whole) (bytes : List UInt8) :
    follow 1 low high code (UInt8.ofNat next :: bytes) = (some whole, bytes) := by
  rw [follow_byte above below short, follow, sum]

theorem decodeLossy_encodeChar (c : Char) (rest : List UInt8) :
    decodeLossy (encodeChar c ++ rest) = c :: decodeLossy rest := by
  have valid := toNat_bounds c
  generalize coded : c.toNat = code at valid
  have named : Char.ofNat code = c := by
    rw [← coded, Char.ofNat_toNat]
  simp only [encodeChar, coded]
  split
  · next one =>
    have same : (UInt8.ofNat code).toNat = code := toNat_byte (by omega)
    have ascii : (UInt8.ofNat code).toNat < 0x80 := by
      rw [same]
      exact one
    rw [List.singleton_append, decodeLossy_ascii ascii, same, named]
  split
  · next beyond two =>
    have leads : lead? (UInt8.ofNat (0xC0 + code / 64)).toNat =
        some ⟨1, 0x80, 0xBF, code / 64⟩ := by
      rw [toNat_byte (by omega), lead?, if_neg (by omega), if_pos (by omega),
        Nat.add_sub_cancel_left]
    have followed : follow 1 0x80 0xBF (code / 64) (UInt8.ofNat (0x80 + code % 64) :: rest) =
        (some code, rest) :=
      follow_last (by omega) (by omega) (by omega) (by omega) rest
    rw [List.cons_append, List.singleton_append, decodeLossy_lead leads followed, named]
  split
  · next beyond three =>
    obtain ⟨low, high, leads, above, below⟩ : ∃ low high,
        lead? (UInt8.ofNat (0xE0 + code / 4096)).toNat = some ⟨2, low, high, code / 4096⟩ ∧
          low ≤ 0x80 + code / 64 % 64 ∧ 0x80 + code / 64 % 64 ≤ high := by
      rw [toNat_byte (by omega), lead?, if_neg (by omega), if_neg (by omega)]
      split
      · next first => exact ⟨0xA0, 0xBF, by simp; omega, by omega, by omega⟩
      split
      · next surrogate => exact ⟨0x80, 0x9F, by simp; omega, by omega, by omega⟩
      · rw [if_pos (by omega), Nat.add_sub_cancel_left]
        exact ⟨0x80, 0xBF, rfl, by omega, by omega⟩
    have followed : follow 2 low high (code / 4096)
        (UInt8.ofNat (0x80 + code / 64 % 64) :: UInt8.ofNat (0x80 + code % 64) :: rest) =
        (some code, rest) := by
      rw [follow_byte above below (by omega)]
      exact follow_last (by omega) (by omega) (by omega) (by omega) rest
    rw [List.cons_append, List.cons_append, List.singleton_append, decodeLossy_lead leads followed,
      named]
  · next beyond =>
    obtain ⟨low, high, leads, above, below⟩ : ∃ low high,
        lead? (UInt8.ofNat (0xF0 + code / 262144)).toNat = some ⟨3, low, high, code / 262144⟩ ∧
          low ≤ 0x80 + code / 4096 % 64 ∧ 0x80 + code / 4096 % 64 ≤ high := by
      rw [toNat_byte (by omega), lead?, if_neg (by omega), if_neg (by omega), if_neg (by omega),
        if_neg (by omega), if_neg (by omega)]
      split
      · next first => exact ⟨0x90, 0xBF, by simp; omega, by omega, by omega⟩
      split
      · rw [Nat.add_sub_cancel_left]
        exact ⟨0x80, 0xBF, rfl, by omega, by omega⟩
      · rw [if_pos (by omega)]
        exact ⟨0x80, 0x8F, by simp; omega, by omega, by omega⟩
    have followed : follow 3 low high (code / 262144)
        (UInt8.ofNat (0x80 + code / 4096 % 64) :: UInt8.ofNat (0x80 + code / 64 % 64) ::
          UInt8.ofNat (0x80 + code % 64) :: rest) = (some code, rest) := by
      rw [follow_byte above below (by omega), follow_byte (by omega) (by omega) (by omega)]
      exact follow_last (by omega) (by omega) (by omega) (by omega) rest
    rw [List.cons_append, List.cons_append, List.cons_append, List.singleton_append,
      decodeLossy_lead leads followed, named]

theorem decodeLossy_encode_append (text : List Char) (rest : List UInt8) :
    decodeLossy (encode text ++ rest) = text ++ decodeLossy rest := by
  induction text with
  | nil => rfl
  | cons c text ih =>
    rw [encode_cons, List.append_assoc, decodeLossy_encodeChar, ih, List.cons_append]

theorem decodeLossy_encode (text : List Char) : decodeLossy (encode text) = text := by
  have whole := decodeLossy_encode_append text []
  rwa [List.append_nil, decodeLossy, List.append_nil] at whole

theorem decode?_eq_some_iff {bytes : List UInt8} {text : List Char} :
    decode? bytes = some text ↔ bytes = encode text := by
  simp only [decode?, Option.ite_none_right_eq_some, Option.some.injEq]
  constructor
  · rintro ⟨same, rfl⟩
    exact same.symm
  · rintro rfl
    rw [decodeLossy_encode]
    exact ⟨rfl, rfl⟩

def IsUtf8 (bytes : List UInt8) : Prop :=
  ∃ text, bytes = encode text

theorem isUtf8_encode (text : List Char) : IsUtf8 (encode text) :=
  ⟨text, rfl⟩

theorem isUtf8_iff {bytes : List UInt8} : IsUtf8 bytes ↔ encode (decodeLossy bytes) = bytes := by
  constructor
  · rintro ⟨text, rfl⟩
    rw [decodeLossy_encode]
  · intro same
    exact ⟨_, same.symm⟩

instance (bytes : List UInt8) : Decidable (IsUtf8 bytes) :=
  decidable_of_iff _ isUtf8_iff.symm

theorem IsUtf8.append {left right : List UInt8} (first : IsUtf8 left) (second : IsUtf8 right) :
    IsUtf8 (left ++ right) := by
  obtain ⟨text, rfl⟩ := first
  obtain ⟨more, rfl⟩ := second
  exact ⟨text ++ more, (encode_append text more).symm⟩

theorem isUtf8_of_encode_append {text : List Char} {rest : List UInt8}
    (whole : IsUtf8 (encode text ++ rest)) : IsUtf8 rest := by
  rw [isUtf8_iff, decodeLossy_encode_append, encode_append] at whole
  exact isUtf8_iff.mpr (List.append_cancel_left whole)

theorem encodeChar_of_ascii_mem {c : Char} {byte : UInt8} (member : byte ∈ encodeChar c)
    (ascii : byte.toNat < 0x80) : encodeChar c = [byte] := by
  have valid := toNat_bounds c
  simp only [encodeChar] at member ⊢
  split at member
  · next one =>
    rw [if_pos one]
    simp_all
  split at member
  · simp only [List.mem_cons, List.not_mem_nil, or_false] at member
    rcases member with rfl | rfl <;> rw [toNat_byte (by omega)] at ascii <;> omega
  split at member
  · simp only [List.mem_cons, List.not_mem_nil, or_false] at member
    rcases member with rfl | rfl | rfl <;> rw [toNat_byte (by omega)] at ascii <;> omega
  · simp only [List.mem_cons, List.not_mem_nil, or_false] at member
    rcases member with rfl | rfl | rfl | rfl <;> rw [toNat_byte (by omega)] at ascii <;> omega

theorem isUtf8_of_append_ascii {left right : List UInt8} {byte : UInt8}
    (ascii : byte.toNat < 0x80) (whole : IsUtf8 (left ++ byte :: right)) : IsUtf8 left := by
  obtain ⟨text, spelled⟩ := whole
  induction text generalizing left with
  | nil => simp [encode] at spelled
  | cons c text ih =>
    rw [encode_cons] at spelled
    rcases List.append_eq_append_iff.mp spelled with ⟨more, first, second⟩ | ⟨more, first, second⟩
    · -- the byte stands in the first character, or right after it
      cases more with
      | nil =>
        rw [List.append_nil] at first
        exact ⟨[c], by simp [encode, first]⟩
      | cons head more =>
        obtain ⟨rfl, _⟩ := List.cons.inj second
        have single := encodeChar_of_ascii_mem (by simp [first] : byte ∈ encodeChar c) ascii
        have lengths := congrArg List.length (first.symm.trans single)
        have empty : left = [] := by
          rw [← List.length_eq_zero_iff]
          simp at lengths
          omega
        exact ⟨[], by rw [empty]; rfl⟩
    · rw [first]
      exact IsUtf8.append ⟨[c], by simp [encode]⟩ (ih second.symm)

end ApiMigration.Text
