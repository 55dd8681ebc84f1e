import Mathlib.Algebra.Group.Nat.Defs

/-!
The suffixes of new ACME ids, random bytes in base 32. The accumulator is a 64-bit word that is
never masked: bits that have been emitted stay in it until they are shifted out.

Source: internal/service/acme_orders.go.
-/
namespace Certctl.Source.Acme

def alpha : List Char := "0123456789abcdefghjkmnpqrstvwxyz".toList

/-- The symbol of the low five bits of a word. -/
def symbol (word : Nat) : Char := alpha.getD (word &&& 0x1f) '0'

structure Packing where
  buf : Nat
  bits : Nat
  out : List Char

/-- The inner loop: a symbol for every five bits that are held. -/
def Packing.drain (s : Packing) : Packing :=
  if s.bits ≥ 5 then
    drain { s with bits := s.bits - 5, out := s.out ++ [symbol (s.buf >>> (s.bits - 5))] }
  else s
termination_by s.bits

def Packing.push (s : Packing) (c : UInt8) : Packing :=
  drain { s with buf := (s.buf <<< 8) % 2 ^ 64 ||| c.toNat, bits := s.bits + 8 }

def base32encode (b : List UInt8) : List Char :=
  let s := b.foldl Packing.push ⟨0, 0, []⟩
  if s.bits > 0 then s.out ++ [symbol ((s.buf <<< (5 - s.bits)) % 2 ^ 64)] else s.out

end Certctl.Source.Acme
