/-!
UTF-8. Writing is by the number of bytes that a code point needs. Reading never fails: a sequence
that breaks off is replaced, up to the byte that breaks it, by one replacement character.
-/

namespace ApiMigration.Text

def encodeChar (c : Char) : List UInt8 :=
  let code := c.toNat
  if code < 0x80 then [UInt8.ofNat code]
  else if code < 0x800 then
    [UInt8.ofNat (0xC0 + code / 64), UInt8.ofNat (0x80 + code % 64)]
  else if code < 0x10000 then
    [UInt8.ofNat (0xE0 + code / 4096), UInt8.ofNat (0x80 + code / 64 % 64),
     UInt8.ofNat (0x80 + code % 64)]
  else
    [UInt8.ofNat (0xF0 + code / 262144), UInt8.ofNat (0x80 + code / 4096 % 64),
     UInt8.ofNat (0x80 + code / 64 % 64), UInt8.ofNat (0x80 + code % 64)]

def encode (text : List Char) : List UInt8 :=
  text.flatMap encodeChar

/-- What the first byte of a longer sequence says: how many bytes follow, between which bounds the
next one lies, and the bits it carries itself. The bounds keep out overlong forms, surrogates and
code points that are too large. -/
structure Lead where
  following : Nat
  low : Nat
  high : Nat
  bits : Nat
deriving DecidableEq, Repr

def lead? (byte : Nat) : Option Lead :=
  if byte < 0xC2 then none
  else if byte < 0xE0 then some ⟨1, 0x80, 0xBF, byte - 0xC0⟩
  else if byte = 0xE0 then some ⟨2, 0xA0, 0xBF, 0⟩
  else if byte = 0xED then some ⟨2, 0x80, 0x9F, 0xD⟩
  else if byte < 0xF0 then some ⟨2, 0x80, 0xBF, byte - 0xE0⟩
  else if byte = 0xF0 then some ⟨3, 0x90, 0xBF, 0⟩
  else if byte < 0xF4 then some ⟨3, 0x80, 0xBF, byte - 0xF0⟩
  else if byte = 0xF4 then some ⟨3, 0x80, 0x8F, 4⟩
  else none

/-- Reads the bytes that have to follow; the code point is missing when one of them is. -/
def follow : (count low high code : Nat) → List UInt8 → Option Nat × List UInt8
  | 0, _, _, code, bytes => (some code, bytes)
  | _ + 1, _, _, _, [] => (none, [])
  | count + 1, low, high, code, byte :: bytes =>
    if low ≤ byte.toNat ∧ byte.toNat ≤ high then
      follow count 0x80 0xBF (code * 64 + (byte.toNat - 0x80)) bytes
    else (none, byte :: bytes)

theorem length_follow_le (count low high code : Nat) (bytes : List UInt8) :
    (follow count low high code bytes).2.length ≤ bytes.length := by
  induction bytes generalizing count low high code with
  | nil =>
    cases count with
    | zero => simp [follow]
    | succ count => simp [follow]
  | cons byte bytes ih =>
    cases count with
    | zero => simp [follow]
    | succ count =>
      unfold follow
      split
      · exact Nat.le_trans (ih count 0x80 0xBF _) (Nat.le_succ _)
      · exact Nat.le_refl _

def decodeLossy : List UInt8 → List Char
  | [] => []
  | byte :: bytes =>
    if byte.toNat < 0x80 then Char.ofNat byte.toNat :: decodeLossy bytes
    else
      match lead? byte.toNat with
      | none => '\uFFFD' :: decodeLossy bytes
      | some lead =>
        let result := follow lead.following lead.low lead.high lead.bits bytes
        (result.1.map Char.ofNat).getD '\uFFFD' :: decodeLossy result.2
termination_by bytes => bytes.length
decreasing_by
  · simp
  · simp
  · exact Nat.lt_succ_of_le (length_follow_le _ _ _ _ _)

/-- The text of some bytes that are UTF-8: then, and only then, writing gives the bytes back. -/
def decode? (bytes : List UInt8) : Option (List Char) :=
  let text := decodeLossy bytes
  if encode text = bytes then some text else none

end ApiMigration.Text
