import Mathlib.Tactic.Common

/-!
# Little-endian words

A word of `width` bytes is stored with its least significant byte first.
`encode` lists the bytes of a word in the order of their addresses and
`decode` reads a word back from bytes in that order.
-/

namespace LittleEndian

/-- The bytes of a word, least significant first. -/
def encode {width : Nat} (value : BitVec (8 * width)) :
    List (BitVec 8) :=
  (List.range width).map fun index =>
    value.extractLsb' (8 * index) 8

/-- The number that a list of bytes stands for. -/
def number : List (BitVec 8) → Nat
  | [] => 0
  | byte :: rest => byte.toNat + 256 * number rest

/-- The word that a list of bytes stands for. -/
def decode (width : Nat) (bytes : List (BitVec 8)) :
    BitVec (8 * width) :=
  BitVec.ofNat _ (number bytes)

@[simp]
theorem length_encode {width : Nat} (value : BitVec (8 * width)) :
    (encode value).length = width := by
  simp [encode]

/-! ## Bits -/

/-- The bit `8 * index + bit` of a word is a bit of its byte `index`. -/
theorem getLsbD_encode
    {width : Nat} (value : BitVec (8 * width)) {index bit : Nat}
    (within : index < (encode value).length) (inByte : bit < 8) :
    (encode value)[index].getLsbD bit =
      value.getLsbD (8 * index + bit) := by
  simp [encode, inByte]

theorem testBit_number
    (bytes : List (BitVec 8)) {index bit : Nat}
    (within : index < bytes.length) (inByte : bit < 8) :
    (number bytes).testBit (8 * index + bit) =
      bytes[index].getLsbD bit := by
  induction bytes generalizing index with
  | nil => exact absurd within (Nat.not_lt_zero index)
  | cons byte rest induction =>
      rw [number, Nat.add_comm byte.toNat,
        show 256 = 2 ^ 8 from rfl, Nat.testBit_two_pow_mul_add _ byte.isLt]
      cases index with
      | zero =>
          rw [if_pos (by omega), Nat.mul_zero, Nat.zero_add]
          rfl
      | succ index =>
          have past : 8 * (index + 1) + bit - 8 = 8 * index + bit := by
            omega
          rw [if_neg (by omega), past,
            induction (Nat.lt_of_succ_lt_succ within)]
          rfl

theorem getLsbD_decode
    {width : Nat} {bytes : List (BitVec 8)} {index bit : Nat}
    (length : bytes.length = width)
    (within : index < bytes.length) (inByte : bit < 8) :
    (decode width bytes).getLsbD (8 * index + bit) =
      bytes[index].getLsbD bit := by
  have inWord : 8 * index + bit < 8 * width := by omega
  rw [decode, BitVec.getLsbD_ofNat, decide_eq_true inWord,
    Bool.true_and, testBit_number bytes within inByte]

/-! ## Round trips -/

/-- A word is read back from its bytes. -/
theorem decode_encode {width : Nat} (value : BitVec (8 * width)) :
    decode width (encode value) = value := by
  apply BitVec.eq_of_getLsbD_eq
  intro place inWord
  have inBytes : place / 8 < (encode value).length := by
    rw [length_encode]
    omega
  have inByte : place % 8 < 8 := Nat.mod_lt _ (by decide)
  rw [← Nat.div_add_mod place 8,
    getLsbD_decode (length_encode value) inBytes inByte,
    getLsbD_encode value inBytes inByte]

/-- Bytes are those of the word that they stand for. -/
theorem encode_decode {width : Nat} {bytes : List (BitVec 8)}
    (length : bytes.length = width) :
    encode (decode width bytes) = bytes := by
  apply List.ext_getElem
  · rw [length_encode, length]
  · intro index inEncoded inBytes
    apply BitVec.eq_of_getLsbD_eq
    intro bit inByte
    rw [getLsbD_encode _ inEncoded inByte,
      getLsbD_decode length inBytes inByte]

end LittleEndian
