import Certctl.Lib.Lists
import Certctl.Lib.Numeral
import Certctl.Source.Acme.RandomIDs

/-!
Different bytes get different ids. The symbols written so far spell the number that the bytes
spell, without the bits still held. The accumulator is that number modulo the word size, so its
low bits are right whatever has been shifted out at the top.
-/
namespace Certctl.Guarantees.InjectiveIDs

open Lib Source.Acme

/-- The number that symbols stand for. -/
def ofSymbols (out : List Char) : Nat := out.foldl (fun v c => 32 * v + alpha.idxOf c) 0

theorem idxOf_symbol (word : Nat) : alpha.idxOf (symbol word) = word % 32 := by
  have all : ∀ n < 32, alpha.idxOf (alpha.getD n '0') = n := by decide +kernel
  rw [symbol, Nat.and_two_pow_sub_one_eq_mod word 5]
  exact all _ (Nat.mod_lt _ (by decide))

/-- `total` bits with the value `v` have been read. -/
structure Spells (v total : Nat) (s : Packing) : Prop where
  buf : s.buf = v % 2 ^ 64
  bits : s.bits ≤ 59
  length : 5 * s.out.length + s.bits = total
  value : ofSymbols s.out = v / 2 ^ s.bits
  letters : ∀ c ∈ s.out, c ∈ alpha

variable {v w total : Nat} {s : Packing}

section

variable (spells : Spells v total s)

include spells

theorem Spells.emit (held : s.bits ≥ 5) : Spells v total
    { s with bits := s.bits - 5, out := s.out ++ [symbol (s.buf >>> (s.bits - 5))] } := by
  obtain ⟨k, enough⟩ := Nat.exists_eq_add_of_le' held
  have inside := spells.bits
  have length := spells.length
  have digit : s.buf >>> k % 32 = v / 2 ^ k % 32 := by
    have word := Nat.pow_sub_mul_pow 2 (by omega : k ≤ 64)
    rw [spells.buf, Nat.shiftRight_eq_div_pow, ← word, Nat.mod_mul_left_div_self,
      Nat.mod_mod_of_dvd _ (Nat.pow_dvd_pow 2 (by omega : 5 ≤ 64 - k))]
  have written := idxOf_symbol (s.buf >>> k)
  have value := spells.value
  rw [enough, Nat.pow_add, ← Nat.div_div_eq_div_mul] at value
  rw [enough, Nat.add_sub_cancel]
  refine ⟨spells.buf, (by omega : k ≤ 59), ?_, ?_, ?_⟩
  · simp only [List.length_append, List.length_singleton]
    omega
  · simp only [ofSymbols, List.foldl_append, List.foldl_cons, List.foldl_nil, written, digit] at *
    omega
  · refine List.forall_mem_append.mpr ⟨spells.letters, List.forall_mem_singleton.mpr ?_⟩
    rw [← List.idxOf_lt_length_iff, written]
    exact Nat.mod_lt _ (by decide)

/-- Further bits come in from below. -/
theorem Spells.shift (few : s.bits < 5) {k c : Nat} (short : k ≤ 8) (small : c < 2 ^ k) :
    Spells (2 ^ k * v + c) (total + k)
      { s with buf := (s.buf <<< k) % 2 ^ 64 ||| c, bits := s.bits + k } := by
  have length := spells.length
  have whole : (2 ^ k * v + c) / 2 ^ k = v := by
    rw [Nat.mul_add_div (Nat.two_pow_pos k), Nat.div_eq_of_lt small, Nat.add_zero]
  refine ⟨?_, by simp only; omega, by simp only; omega, ?_, spells.letters⟩
  · have word := Nat.pow_sub_mul_pow 2 (by omega : k ≤ 64)
    have shifted : s.buf <<< k % 2 ^ 64 = (v % 2 ^ (64 - k)) <<< k := by
      rw [spells.buf, Nat.shiftLeft_eq, Nat.mod_mul_mod, ← word,
        Nat.mul_mod_mul_right, Nat.shiftLeft_eq]
    simp only [shifted]
    rw [← Nat.shiftLeft_add_eq_or_of_lt small, Nat.shiftLeft_eq, ← word, Nat.mul_comm _ (2 ^ k),
      Nat.mul_comm _ (2 ^ k), Nat.mod_mul, whole, Nat.mul_add_mod, Nat.mod_eq_of_lt small,
      Nat.add_comm]
  · rw [spells.value, Nat.add_comm s.bits, Nat.pow_add, ← Nat.div_div_eq_div_mul, whole]

theorem Spells.drain : Spells v total s.drain ∧ s.drain.bits < 5 := by
  induction s using Packing.drain.induct with
  | case1 s held ih =>
    rw [Packing.drain, if_pos held]
    exact ih (spells.emit held)
  | case2 s few =>
    rw [Packing.drain, if_neg few]
    exact ⟨spells, Nat.lt_of_not_le few⟩

theorem Spells.foldl (few : s.bits < 5) (b : List UInt8) :
    Spells (b.foldl (fun acc c => 256 * acc + c.toNat) v) (total + 8 * b.length)
      (b.foldl Packing.push s) ∧ (b.foldl Packing.push s).bits < 5 := by
  induction b generalizing v total s with
  | nil => exact ⟨spells, few⟩
  | cons c b ih =>
    obtain ⟨pushed, few⟩ := (spells.shift few (by decide) c.toNat_lt).drain
    have done := ih pushed few
    rwa [Nat.add_assoc, Nat.add_comm 8, ← Nat.mul_succ] at done

end

/-- The text spells the bytes, filled up with zeros to a whole number of symbols. -/
theorem base32encode_spells (b : List UInt8) : ∃ fill < 5,
    5 * (base32encode b).length = 8 * b.length + fill ∧
    ofSymbols (base32encode b) = 2 ^ fill * ofBigEndian b ∧ ∀ c ∈ base32encode b, c ∈ alpha := by
  have start : Spells 0 0 ⟨0, 0, []⟩ := ⟨rfl, by decide, rfl, rfl, by simp⟩
  obtain ⟨spells, few⟩ := start.foldl (by decide) b
  unfold base32encode
  generalize b.foldl Packing.push ⟨0, 0, []⟩ = s at *
  dsimp only
  split
  next held =>
    -- the last symbol is what five bits would give if zeros had been read
    obtain ⟨-, -, length, value, letters⟩ :=
      (spells.shift few (k := 5 - s.bits) (by omega) (Nat.two_pow_pos _)).emit
        (show s.bits + (5 - s.bits) ≥ 5 by omega)
    simp only [show s.bits + (5 - s.bits) - 5 = 0 by omega, Nat.or_zero, Nat.shiftRight_zero,
      Nat.pow_zero, Nat.div_one] at length value letters
    exact ⟨5 - s.bits, by omega, by omega, value, letters⟩
  next none =>
    have length := spells.length
    have value := spells.value
    rw [Nat.eq_zero_of_not_pos none] at length value
    exact ⟨0, by decide, by omega, by simpa [ofBigEndian] using value, spells.letters⟩

/-- The length is that of all bits in groups of five, every symbol is one of the 32, and byte
slices of whatever lengths with the same text are the same. -/
theorem base32encode_injective :
    (∀ b, (base32encode b).length = (8 * b.length + 4) / 5 ∧ ∀ c ∈ base32encode b, c ∈ alpha) ∧
    Function.Injective base32encode := by
  refine ⟨fun b => ?_, fun a b same => ?_⟩
  · obtain ⟨fill, few, length, -, letters⟩ := base32encode_spells b
    exact ⟨by omega, letters⟩
  · obtain ⟨fill, few, length, value, -⟩ := base32encode_spells a
    obtain ⟨fill', few', length', value', -⟩ := base32encode_spells b
    rw [same] at length value
    obtain rfl : fill = fill' := by omega
    have equal := Nat.eq_of_mul_eq_mul_left (Nat.two_pow_pos fill) (value.symm.trans value')
    exact (eq_of_foldl_eq (by omega) equal).2

end Certctl.Guarantees.InjectiveIDs
