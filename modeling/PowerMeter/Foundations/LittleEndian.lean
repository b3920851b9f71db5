import Mathlib.Data.Nat.Digits.Defs

/-!
# Little-endian byte strings

Fixed-width integers as the bytes a little-endian machine stores for them. Decoding is
`Nat.ofDigits 256`; encoding keeps exactly the requested number of bytes.
-/

namespace LittleEndian

/-- The low `width` bytes of a number, least significant first. -/
def encode : ℕ → ℕ → List UInt8
  | 0, _ => []
  | width + 1, value => UInt8.ofNat value :: encode width (value / 256)

/-- The number stored by a byte string, least significant byte first. -/
def decode (bytes : List UInt8) : ℕ :=
  Nat.ofDigits 256 (bytes.map UInt8.toNat)

@[simp]
theorem encode_length (width value : ℕ) : (encode width value).length = width := by
  induction width generalizing value with
  | zero => rfl
  | succ width induction => simp [encode, induction]

theorem decode_cons (byte : UInt8) (bytes : List UInt8) :
    decode (byte :: bytes) = byte.toNat + 256 * decode bytes := by
  simp [decode, Nat.ofDigits_cons]

/-- Decoding the low bytes of a number reduces it modulo their range. -/
theorem decode_encode (width value : ℕ) :
    decode (encode width value) = value % 256 ^ width := by
  induction width generalizing value with
  | zero => simp [encode, decode, Nat.mod_one]
  | succ width induction =>
      rw [encode, decode_cons, induction, UInt8.toNat_ofNat', pow_succ' 256 width, Nat.mod_mul]

/-- A number that fits its width survives the round trip. -/
theorem decode_encode_of_lt {width value : ℕ} (fits : value < 256 ^ width) :
    decode (encode width value) = value := by
  rw [decode_encode, Nat.mod_eq_of_lt fits]

end LittleEndian
