import Mathlib.Data.Int.Bitwise
import Certctl.Lib.Lists
import Certctl.Source.Pkcs7.EnvelopedData

/-!
The branch-free padding check is exact for both block sizes: it accepts the plaintexts that
end with as many bytes of one value, from one to a block, as the value says, and strips
these bytes. So it undoes the padding of the builder.
-/
namespace Certctl.Guarantees.Unpadding

open Lib Lib.Der Source.Pkcs7

/-- The plaintext ends with as many bytes of one value as the value says. -/
def Padded (blockSize : Nat) (plaintext : Bytes) (pad : UInt8) : Prop :=
  1 ≤ pad.toNat ∧ pad.toNat ≤ blockSize ∧
    ∀ b ∈ plaintext.drop (plaintext.length - pad.toNat), b = pad

/-- The mask is all ones up to the padding length. -/
theorem inWindow_and_eq_zero (pad b : UInt8) {i : Nat} (small : i ≤ 256) :
    inWindow pad i &&& b = 0 ↔ (i ≤ pad.toNat → b = 0) := by
  have bound := pad.toNat_lt
  have sign : ((pad.toNat : Int) - i) >>> (31 : Nat) = if i ≤ pad.toNat then 0 else -1 := by
    rw [Int.shiftRight_eq_div_pow]
    split <;> omega
  rw [inWindow, sign]
  by_cases inside : i ≤ pad.toNat
  · have ones : ~~~ UInt8.ofInt 0 = -1 := by decide
    simp [inside, ones]
  · simp [inside]

variable {blockSize : Nat}

section

variable (size : blockSize ∈ [8, 16])

include size

theorem padTooBig_eq_zero (pad : UInt8) :
    padTooBig blockSize pad = 0 ↔ 1 ≤ pad.toNat ∧ pad.toNat ≤ blockSize := by
  have table : ∀ n : Fin 256, ∀ blockSize ∈ [8, 16],
      padTooBig blockSize (UInt8.ofNat n.val) = 0 ↔ 1 ≤ n.val ∧ n.val ≤ blockSize := by
    decide +kernel
  simpa using table ⟨pad.toNat, pad.toNat_lt⟩ blockSize size

variable {plaintext : Bytes}

omit size in
/-- The last bytes, counted from the end. -/
theorem forall_mem_drop_iff {n : Nat} (fits : n ≤ plaintext.length)
    (pad : UInt8) : (∀ b ∈ plaintext.drop (plaintext.length - n), b = pad) ↔
      ∀ i, 1 ≤ i → i ≤ n → plaintext.getD (plaintext.length - i) 0 = pad := by
  rw [List.forall_mem_iff_getElem]
  simp only [List.length_drop, List.getElem_drop]
  constructor
  · intro all i positive inside
    have here := all (n - i) (by omega)
    rw [List.getD_eq_getElem _ _ (by omega)]
    convert here using 2
    omega
  · intro all j inside
    have here := all (n - j) (by omega) (by omega)
    rw [List.getD_eq_getElem _ _ (by omega)] at here
    convert here using 2
    omega

theorem paddingFault_eq_zero (whole : blockSize ≤ plaintext.length) (pad : UInt8) :
    paddingFault blockSize plaintext pad = 0 ↔ Padded blockSize plaintext pad := by
  have small : blockSize ≤ 16 := by
    rcases List.mem_pair.mp size with rfl | rfl <;> decide
  rw [paddingFault, foldl_or_eq_zero, padTooBig_eq_zero size, Nat.min_eq_left whole, Padded,
    and_assoc]
  refine and_congr_right fun _ => and_congr_right fun fits => ?_
  rw [forall_mem_drop_iff (Nat.le_trans fits whole)]
  simp only [List.mem_range'_1]
  constructor
  · intro clean i positive inside
    have here := clean i ⟨positive, by omega⟩
    rw [inWindow_and_eq_zero _ _ (by omega), UInt8.xor_eq_zero_iff] at here
    exact here inside
  · intro equal i inside
    rw [inWindow_and_eq_zero _ _ (by omega), UInt8.xor_eq_zero_iff]
    exact equal i inside.1

theorem unpad_eq_ok (whole : blockSize ≤ plaintext.length) (out : Bytes) :
    unpad blockSize plaintext = .ok out ↔
      ∃ pad, plaintext.getLast? = some pad ∧ Padded blockSize plaintext pad ∧
        plaintext.take (plaintext.length - pad.toNat) = out := by
  simp only [unpad, bind_eq_ok, orFail_eq_ok, ensure_eq_ok, paddingFault_eq_zero size whole,
    exists_const, pure, Except.pure, Except.ok.injEq]

theorem unpad_pkcs7Pad (input : Bytes) :
    unpad blockSize (pkcs7Pad input blockSize) = .ok input := by
  have small : 0 < blockSize ∧ blockSize < 256 := by
    rcases List.mem_pair.mp size with rfl | rfl <;> decide
  have part : input.length % blockSize < blockSize := Nat.mod_lt _ small.1
  have below : input.length % blockSize ≤ input.length := Nat.mod_le _ _
  generalize length : blockSize - input.length % blockSize = n
  have value : (UInt8.ofNat n).toNat = n := by
    rw [UInt8.toNat_ofNat_of_lt' (show n < 256 by omega)]
  have padded : pkcs7Pad input blockSize = input ++ List.replicate n (UInt8.ofNat n) := by
    rw [pkcs7Pad, length]
  rw [padded, unpad_eq_ok size (by rw [List.length_append, List.length_replicate]; omega)]
  refine ⟨UInt8.ofNat n, ?_, ⟨?_, ?_, ?_⟩, ?_⟩
  · rw [List.getLast?_append, List.getLast?_replicate, if_neg (by omega)]
    rfl
  · omega
  · omega
  · simp [value]
  · simp [value]

end

/-- The check accepts exactly the padded plaintexts and strips the padding. -/
theorem unpad_exact (blockSize : Nat) (size : blockSize ∈ [8, 16]) :
    (∀ plaintext out : Bytes, plaintext ≠ [] → blockSize ∣ plaintext.length →
      (unpad blockSize plaintext = .ok out ↔
        ∃ pad, plaintext.getLast? = some pad ∧ Padded blockSize plaintext pad ∧
          plaintext.take (plaintext.length - pad.toNat) = out)) ∧
      ∀ input, unpad blockSize (pkcs7Pad input blockSize) = .ok input := by
  refine ⟨fun plaintext out nonempty whole => ?_, unpad_pkcs7Pad size⟩
  exact unpad_eq_ok size (Nat.le_of_dvd (List.length_pos_iff.mpr nonempty) whole) out

def paddingBlock : Bytes := List.replicate 16 16

theorem unpad_exact_block :
    (∃ pad, paddingBlock.getLast? = some pad ∧ Padded 16 paddingBlock pad ∧
      paddingBlock.take (paddingBlock.length - pad.toNat) = []) ∧
      unpad 16 (pkcs7Pad [] 16) = .ok [] := by
  obtain ⟨exact, stripped⟩ := unpad_exact 16 (by decide)
  exact ⟨(exact paddingBlock [] (by decide) (by decide)).mp rfl, stripped []⟩

end Certctl.Guarantees.Unpadding
