/-!
# Bytes and little-endian words

* `Bytes` : a byte string;
* `toLE w n`, `ofLE` : the `w` bytes of a number, least significant first, and the number back;
* `toBE w n` : the same bytes, most significant first;
* `signed size n` : a word that can take `size` values, read in two's complement.
-/

namespace PacketRing

abbrev Bytes := List UInt8

/-- The `w` little-endian bytes of `n`; what does not fit is cut off. -/
def toLE : Nat → Nat → Bytes
  | 0, _ => []
  | w + 1, n => UInt8.ofNat n :: toLE w (n / 256)

/-- The number with the given little-endian bytes. -/
def ofLE : Bytes → Nat
  | [] => 0
  | b :: bs => b.toNat + 256 * ofLE bs

/-- The `w` big-endian bytes of `n`. -/
def toBE (w n : Nat) : Bytes := (toLE w n).reverse

/-- The word `n` out of `size` in two's complement: the upper half stands for negative numbers. -/
def signed (size n : Nat) : Int := if 2 * n < size then n else (n : Int) - size

@[simp] theorem length_toLE (w n : Nat) : (toLE w n).length = w := by
  induction w generalizing n with
  | zero => rfl
  | succ w ih => simp [toLE, ih]

theorem ofLE_replicate_zero (w : Nat) : ofLE (List.replicate w 0) = 0 := by
  induction w with
  | zero => rfl
  | succ w ih => simp [List.replicate_succ, ofLE, ih]

theorem toLE_zero (w : Nat) : toLE w 0 = List.replicate w 0 := by
  induction w with
  | zero => rfl
  | succ w ih => simp [toLE, ih, List.replicate_succ]

end PacketRing
